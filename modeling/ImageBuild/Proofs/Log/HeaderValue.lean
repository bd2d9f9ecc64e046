import ImageBuild.Proofs.Log.Masking
import ImageBuild.Proofs.Registry.HeaderForm

namespace ImageBuild.Log

/-!
# Header values in log texts — masked whole

A header value is characters of base64 and ends with `=` or `9`, since the JSON that it encodes ends
with a brace.  So no bearer token is announced in it or across its end, and the rule for encoded
credentials takes all of it for the secret that the name of the header announces.

* `isHeaderValue_of_encode` — what header values are made of, and how they end.
* `Rule.IsRegular.maskFrom_free` — a piece that does not contain the stem of a rule's words is kept.
* `bearerRule_mask_header`, `registryRule_mask_header` — what the rules make of a header.
* `mask_header_eq` — the masked text is the same for all credentials.
-/

/-! ### Header values -/

/-- Characters of base64, the last of which is padding or a digit. -/
structure IsHeaderValue (s : List Char) : Prop where
  isValue : ∀ c ∈ s, registryRule.isValue c = true
  getLast? : s.getLast? = some '=' ∨ s.getLast? = some '9'

/-- There are no blanks in a header value. -/
theorem IsHeaderValue.isBlank_eq_false {s : List Char} (h : IsHeaderValue s) :
    ∀ c ∈ s, Text.isBlank c = false :=
  fun c hc => (looksForAssignment_registryRule.2 c (h.isValue c hc)).1

/-- Its last character is no letter. -/
theorem IsHeaderValue.isCueChar_getLast? {s : List Char} (h : IsHeaderValue s) :
    ∀ c ∈ s.getLast?, isCueChar c = false := by
  intro c hc
  rcases h.getLast? with hlast | hlast
  · obtain rfl : '=' = c := Option.some.inj (hlast.symm.trans hc)
    decide
  · obtain rfl : '9' = c := Option.some.inj (hlast.symm.trans hc)
    decide

/-- The base64 text of bytes that end with a closing brace ends with `=` or `9`. -/
theorem getLast?_encode_concat (bs : List UInt8) :
    (Text.Base64.encode (bs ++ [0x7D])).getLast? = some '=' ∨
      (Text.Base64.encode (bs ++ [0x7D])).getLast? = some '9' := by
  fun_induction Text.Base64.encode bs with
  | case1 => exact .inl rfl
  | case2 a => exact .inl rfl
  | case3 a b =>
    refine .inr ?_
    -- the last six bits of the brace are those of the digit nine
    have hn : (a.toNat * 65536 + b.toNat * 256 + (0x7D : UInt8).toNat) % 64 = 61 := by
      show (a.toNat * 65536 + b.toNat * 256 + 125) % 64 = 61
      omega
    show some (Text.Base64.digit _) = some '9'
    rw [hn]
    rfl
  | case4 a b c rest n ih =>
    have hstep : (Text.Base64.encode (a :: b :: c :: rest ++ [0x7D])).getLast? =
        (Text.Base64.encode (rest ++ [0x7D])).getLast? := by
      show (_ :: _ :: _ :: _ :: Text.Base64.encode (rest ++ [0x7D])).getLast? = _
      rcases ih with h | h
      all_goals
        simp only [List.getLast?_cons, h, Option.getD_some]
    rw [hstep]
    exact ih

/-- Digits of base64 may stand in encoded credentials. -/
theorem isValue_of_isUrlSafe {c : Char} (h : Text.Base64.IsUrlSafe c) :
    registryRule.isValue c = true := by
  have halpha : (65 ≤ c.toNat ∧ c.toNat ≤ 90) ∨ (97 ≤ c.toNat ∧ c.toNat ≤ 122) →
      registryRule.isValue c = true := fun hc =>
    isRegular_registryRule.isValue_of_cueChar c (by rw [isCueChar_iff]; omega)
  rcases h with h | h | h | rfl | rfl
  · exact halpha (.inl h)
  · exact halpha (.inr h)
  · have hdigit : c.isDigit = true := Char.isDigit_iff_toNat.2 h
    simp [registryRule, Char.isAlphanum, hdigit]
  · decide
  · decide

/-- The value that credentials are sent as is one. -/
theorem isHeaderValue_of_encode {source : Registry.Source} {value : String}
    (h : Registry.encode source = .ok value) : IsHeaderValue value.toList := by
  obtain ⟨set, -, rfl⟩ := Registry.exists_of_encode h
  -- the JSON is an object, so that its last byte is a closing brace
  obtain ⟨bs, hbs⟩ : ∃ bs, Text.Utf8.encode (Json.print (Registry.CredentialSet.toJson set)) =
      bs ++ [0x7D] := by
    rw [Registry.CredentialSet.toJson, Json.print]
    exact ⟨_, List.flatMap_append⟩
  rw [Registry.headerOf, String.toList_ofList, hbs]
  refine ⟨fun c hc => ?_, getLast?_encode_concat bs⟩
  obtain ⟨digits, hform, hdigits, -⟩ := Text.Base64.form_encode (bs ++ [0x7D])
  rw [hform, List.mem_append] at hc
  rcases hc with hc | hc
  · exact isValue_of_isUrlSafe (hdigits c hc)
  · rw [List.eq_of_mem_replicate hc]
    decide

/-! ### Pieces in which nothing is announced -/

/-- A text contains a word in any mix of letter cases. -/
def Contains (s word : List Char) : Prop := word <:+: s.map Text.asciiLower

instance (s word : List Char) : Decidable (Contains s word) :=
  inferInstanceAs (Decidable (_ <:+: _))

section Regular

variable {rule : Rule} (hrule : rule.IsRegular)

include hrule

/-- A piece that does not contain the stem of a rule's words is kept, where the character behind it
    continues none of them. -/
theorem Rule.IsRegular.maskFrom_free (stem : List Char) {u : List Char} {d : Char}
    (hstem : ∀ cue ∈ rule.cues, stem <+: cue.word) (hfree : ¬ Contains u stem)
    (hd : ∀ cue ∈ rule.cues, Text.asciiLower d ∉ cue.word.tail) (before : Option Char)
    (s : List Char) :
    rule.maskFrom 0 before (u ++ d :: s) =
      u ++ rule.maskFrom 0 (u.getLast?.or before) (d :: s) := by
  apply hrule.maskFrom_append
  intro front x word link v hu hx hann hx'
  obtain ⟨cue, hcue, hword, -⟩ := hann.cue
  -- the word does not stand in the piece
  have hinside : ¬ word <:+: u := fun h => by
    apply hfree
    have hmap := h.map Text.asciiLower
    rw [hword] at hmap
    exact (hstem cue hcue).isInfix.trans hmap
  rcases List.append_eq_append_iff.1 hx' with ⟨m, rfl, hm⟩ | ⟨m, rfl, -⟩
  · cases m with
    | nil => exact hinside ⟨front, [], by rw [hu]; simp⟩
    | cons e m =>
      -- nor across its end
      obtain ⟨rfl, -⟩ := List.cons.inj hm
      obtain ⟨f, x, rfl⟩ := List.exists_cons_of_ne_nil hx
      apply hd cue hcue
      rw [← hword]
      simp
  · exact hinside ⟨front, m, by rw [hu, List.append_assoc]⟩

end Regular

/-! ### Main result -/

/-- The name of the header and what separates it from the value. -/
def headerFront : List Char := Registry.headerName.toList ++ [':', ' ']

/-- The rule for bearer tokens passes over a header. -/
theorem bearerRule_mask_header {p value q : List Char} (hp : ¬ Contains p "bearer".toList)
    (hvalue : IsHeaderValue value) :
    bearerRule.mask (p ++ (headerFront ++ (value ++ q))) =
      p ++ (headerFront ++ (value ++ bearerRule.mask q)) := by
  unfold Rule.mask
  have halone : ∀ cue ∈ bearerRule.cues, cue.alone = false := by decide
  have hno : ∀ c ∈ headerFront, Text.asciiLower c ≠ 'b' := by
    have hall : (headerFront.all fun c => Text.asciiLower c != 'b') = true := by decide
    simpa using hall
  have hfront : p ++ (headerFront ++ (value ++ q)) =
      p ++ 'X' :: (headerFront.tail ++ (value ++ q)) := rfl
  rw [hfront, isRegular_bearerRule.maskFrom_free "bearer".toList (by decide) hp (by decide)]
  show p ++ bearerRule.maskFrom 0 _ (headerFront ++ (value ++ q)) = _
  rw [isRegular_bearerRule.maskFrom_of_ne (by decide) hno,
    bearerRule_maskFrom_append hvalue.isBlank_eq_false hvalue.isCueChar_getLast?,
    isRegular_bearerRule.maskFrom_before halone _ none q]

/-- The rule for encoded credentials leaves nothing of a header value. -/
theorem registryRule_mask_header {p value q : List Char} (hp : ¬ Contains p "x-registry-".toList)
    (hvalue : IsHeaderValue value) :
    registryRule.mask (p ++ (headerFront ++ (value ++ q))) =
      p ++ (headerFront ++ (stars ++ registryRule.mask (q.dropWhile registryRule.isValue))) := by
  unfold Rule.mask
  have halone : ∀ cue ∈ registryRule.cues, cue.alone = false := by decide
  have hfront : p ++ (headerFront ++ (value ++ q)) =
      p ++ 'X' :: (headerFront.tail ++ (value ++ q)) := rfl
  have hann : ∀ before, registryRule.Announces before Registry.headerName.toList [':', ' '] := by
    intro before
    refine ⟨⟨_, List.mem_cons_self, by decide, fun h => absurd h (by decide)⟩, ?_⟩
    have hblank : ∀ c ∈ [' '], Text.isBlank c = true := List.all_eq_true.1 (by decide)
    rw [looksForAssignment_registryRule.isLink_iff (by decide)]
    exact @IsAssignment.intro [] [] ':' [' '] [] .none (by simp) (.inl rfl) hblank .none
  -- the value, and what follows it as if it were part of it
  have hsecret : registryRule.IsSecret (value ++ q.takeWhile registryRule.isValue) := by
    refine ⟨?_, fun c hc => ?_⟩
    · intro hnil
      rw [(List.append_eq_nil_iff.1 hnil).1] at hvalue
      exact absurd hvalue.getLast? (by decide)
    · rcases List.mem_append.1 hc with hc | hc
      · exact hvalue.isValue c hc
      · exact List.mem_takeWhile_imp hc
  have hrest : registryRule.Ends (q.dropWhile registryRule.isValue) := ends_dropWhile q
  have hparted : value ++ q = (value ++ q.takeWhile registryRule.isValue) ++
      q.dropWhile registryRule.isValue := by
    rw [List.append_assoc, List.takeWhile_append_dropWhile]
  rw [hfront, isRegular_registryRule.maskFrom_free "x-registry-".toList (by decide) hp (by decide)]
  show p ++ registryRule.maskFrom 0 _ (headerFront ++ (value ++ q)) = _
  rw [hparted, headerFront, List.append_assoc,
    isRegular_registryRule.maskFrom_announced (hann _) hsecret hrest,
    isRegular_registryRule.maskFrom_before halone _ none]
  simp

/-- Header values never show in log texts: for credentials that can be encoded, the masked text does
    not depend on them at all, whatever follows the header and whatever precedes it, without another
    announcement. -/
theorem mask_header_eq (p q : String) (hbearer : ¬ Contains p.toList "bearer".toList)
    (hregistry : ¬ Contains p.toList "x-registry-".toList) {source source' : Registry.Source}
    {value value' : String} (h : Registry.encode source = .ok value)
    (h' : Registry.encode source' = .ok value') :
    mask (p ++ Registry.headerName ++ ": " ++ value ++ q) =
      mask (p ++ Registry.headerName ++ ": " ++ value' ++ q) := by
  -- both are the same text with stars
  have hmasked : ∀ {source : Registry.Source} {value : String},
      Registry.encode source = .ok value →
        (mask (p ++ Registry.headerName ++ ": " ++ value ++ q)).toList =
          assignmentRule.mask (p.toList ++ (headerFront ++ (stars ++ registryRule.mask
            ((bearerRule.mask q.toList).dropWhile registryRule.isValue)))) := by
    intro source value h
    have hvalue := isHeaderValue_of_encode h
    have htext : (p ++ Registry.headerName ++ ": " ++ value ++ q).toList =
        p.toList ++ (headerFront ++ (value.toList ++ q.toList)) := by
      simp [headerFront]
    rw [mask, String.toList_ofList, htext, maskChars, bearerRule_mask_header hbearer hvalue,
      registryRule_mask_header hregistry hvalue]
  apply String.toList_injective
  rw [hmasked h, hmasked h']

/-- The headers of one registry and of none, with a token behind them, between words that have
    something masked themselves. -/
theorem mask_header_eq_of_digits :
    (¬ Contains "Sending auth=".toList "bearer".toList ∧
      ¬ Contains "Sending auth=".toList "x-registry-".toList ∧
      Registry.encode Registry.specialDigits =
        .ok "eyJyIjp7InVzZXJuYW1lIjoifn5-IiwicGFzc3dvcmQiOiI_Pz8ifX0=" ∧
      Registry.encode (.ofJson (.object [])) = .ok "e30=") ∧
    mask ("Sending auth=" ++ Registry.headerName ++ ": " ++
        "eyJyIjp7InVzZXJuYW1lIjoifn5-IiwicGFzc3dvcmQiOiI_Pz8ifX0=" ++ "bearer abc") =
      mask ("Sending auth=" ++ Registry.headerName ++ ": " ++ "e30=" ++ "bearer abc") := by
  have hbearer : ¬ Contains "Sending auth=".toList "bearer".toList := by decide +kernel
  have hregistry : ¬ Contains "Sending auth=".toList "x-registry-".toList := by
    decide +kernel
  have hone : Registry.encode Registry.specialDigits =
      .ok "eyJyIjp7InVzZXJuYW1lIjoifn5-IiwicGFzc3dvcmQiOiI_Pz8ifX0=" := by rfl
  have hnone : Registry.encode (.ofJson (.object [])) = .ok "e30=" := by rfl
  exact ⟨⟨hbearer, hregistry, hone, hnone⟩,
    mask_header_eq "Sending auth=" "bearer abc" hbearer hregistry hone hnone⟩

end ImageBuild.Log
