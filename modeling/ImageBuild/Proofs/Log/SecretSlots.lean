import ImageBuild.Proofs.Log.Masking

namespace ImageBuild.Log

/-!
# Slots for secrets — texts of JSON that differ in passwords and identity tokens only

Two texts are alike when they are equal but for the values of members named `password` and
`identitytoken`, and these are secrets as the rule for names that sound secret sees them: not empty,
and without the characters that end such a value.  The characters around a member keep every
announcement on one side of it, or within its value.

* `Alike.bearerRule_maskFrom`, `Alike.registryRule_maskFrom` — the first two rules keep texts alike.
  The first may mask a slot together with what surrounds it, the second a part of a secret.
* `Alike.assignmentRule_maskFrom` — the third rule makes them equal.
* `Alike.maskChars_eq` — so that their masked texts are equal.
-/

/-- A member of an object with a string, behind the character `front`. -/
def member (front : Char) (name value rest : List Char) : List Char :=
  front :: '"' :: (name ++ '"' :: ':' :: '"' :: (value ++ '"' :: rest))

/-- What stands around a secret in the JSON of credentials. -/
structure IsSlot (front : Char) (name : List Char) (behind : Char) : Prop where
  front : front = '{' ∨ front = ','
  name : name = "password".toList ∨ name = "identitytoken".toList
  behind : behind = ',' ∨ behind = '}'

/-- Texts that are equal but for secrets in members whose names sound secret. -/
inductive Alike : List Char → List Char → Prop
  | nil : Alike [] []
  | cons {s s' : List Char} (c : Char) (h : Alike s s') : Alike (c :: s) (c :: s')
  | slot {front behind : Char} {name secret secret' s s' : List Char}
    (hslot : IsSlot front name behind) (hsecret : assignmentRule.IsSecret secret)
    (hsecret' : assignmentRule.IsSecret secret') (h : Alike (behind :: s) (behind :: s')) :
    Alike (member front name secret (behind :: s)) (member front name secret' (behind :: s'))

namespace Alike

variable {s s' : List Char}

/-- A text is like itself. -/
theorem refl (s : List Char) : Alike s s := by
  induction s with
  | nil => exact .nil
  | cons c s ih => exact .cons c ih

/-- Likeness goes both ways. -/
theorem symm (h : Alike s s') : Alike s' s := by
  induction h with
  | nil => exact .nil
  | cons c _ ih => exact .cons c ih
  | slot hslot hsecret hsecret' _ ih => exact .slot hslot hsecret' hsecret ih

/-- Texts are alike behind a common piece. -/
theorem append_left (u : List Char) (h : Alike s s') : Alike (u ++ s) (u ++ s') := by
  induction u with
  | nil => exact h
  | cons c u ih => exact .cons c ih

/-- Alike texts begin with the same character. -/
theorem head?_eq (h : Alike s s') : s'.head? = s.head? := by
  cases h <;> rfl

/-- A piece that does not reach a slot is common to both texts. -/
theorem exists_append {u v : List Char} (hu : ∀ c ∈ u, c ≠ '{' ∧ c ≠ ',') (h : Alike (u ++ v) s') :
    ∃ v', s' = u ++ v' ∧ Alike v v' := by
  induction u generalizing s' with
  | nil => exact ⟨s', rfl, h⟩
  | cons c u ih =>
    obtain ⟨hc, hu⟩ := List.forall_mem_cons.1 hu
    generalize hs : c :: u ++ v = s at h
    cases h with
    | nil => exact absurd hs (by simp)
    | cons d h =>
      obtain ⟨rfl, rfl⟩ := List.cons.inj hs
      obtain ⟨v', rfl, hv⟩ := ih hu h
      exact ⟨v', rfl, hv⟩
    | slot hslot =>
      obtain ⟨rfl, -⟩ := List.cons.inj hs
      rcases hslot.front with rfl | rfl
      · exact absurd rfl hc.1
      · exact absurd rfl hc.2

/-- An announcement in one of two alike texts is one in the other. -/
theorem exists_announced {rule : Rule} (hrule : rule.IsRegular) {before : Option Char}
    {word link v : List Char} (hann : rule.Announces before word link)
    (h : Alike (word ++ (link ++ v)) s') : ∃ v', s' = word ++ (link ++ v') ∧ Alike v v' := by
  have hcommon : ∀ c ∈ word ++ link, c ≠ '{' ∧ c ≠ ',' := by
    intro c hc
    rcases List.mem_append.1 hc with hc | hc
    · have hcue := (hrule.isCueChar_of_mem hann).2 c hc
      constructor <;> rintro rfl <;> exact absurd hcue (by decide)
    · have hlink := hrule.link_chars link hann.link c hc
      constructor <;> rintro rfl <;> exact absurd hlink (by decide)
  rw [← List.append_assoc] at h
  obtain ⟨v', rfl, hv⟩ := exists_append hcommon h
  exact ⟨v', by rw [List.append_assoc], hv⟩

/-- Where nothing is announced in one of two alike texts, nothing is in the other. -/
theorem valueAt?_eq_none {rule : Rule} (hrule : rule.IsRegular) {before : Option Char}
    (h : Alike s s') (hs : rule.valueAt? before s = none) : rule.valueAt? before s' = none := by
  rw [hrule.valueAt?_eq_none_iff] at hs ⊢
  rintro word link c v hann hc rfl
  obtain ⟨v', rfl, hv'⟩ := exists_announced hrule hann h.symm
  obtain ⟨u, rfl⟩ := List.head?_eq_some_iff.1 hv'.head?_eq
  exact hs word link c u hann hc rfl

/-- Alike texts end a value alike. -/
theorem ends {rule : Rule} (h : Alike s s') (hs : rule.Ends s) : rule.Ends s' := by
  intro c hc
  rw [h.head?_eq] at hc
  exact hs c hc

end Alike

/-! ### Two runs of a rule -/

/-- A rule cuts values off alike texts so that alike texts are left. -/
def Rule.CutsAlike (rule : Rule) : Prop :=
  ∀ ⦃secret rest s'⦄, rule.IsSecret secret → rule.Ends rest → Alike (secret ++ rest) s' →
    ∃ secret' rest', s' = secret' ++ rest' ∧ rule.IsSecret secret' ∧ Alike rest rest' ∧
      rule.maskFrom 0 secret'.getLast? rest' = rule.maskFrom 0 secret.getLast? rest'

/-- A relation between what a rule makes of alike texts holds if it does where both run out, where
    both go on with the same character, and at slots. -/
theorem Rule.IsRegular.maskFrom_alike {rule : Rule} (hrule : rule.IsRegular)
    (hcuts : rule.CutsAlike) {R : List Char → List Char → Prop} (nil : R [] [])
    (cons : ∀ {t t'} c, R t t' → R (c :: t) (c :: t'))
    (slot : ∀ {front behind name secret secret' t t'} before, IsSlot front name behind →
      assignmentRule.IsSecret secret → assignmentRule.IsSecret secret' →
      (∀ before, R (rule.maskFrom 0 before (behind :: t)) (rule.maskFrom 0 before (behind :: t'))) →
      R (rule.maskFrom 0 before (member front name secret (behind :: t)))
        (rule.maskFrom 0 before (member front name secret' (behind :: t'))))
    {s s' : List Char} (h : Alike s s') (before : Option Char) :
    R (rule.maskFrom 0 before s) (rule.maskFrom 0 before s') := by
  have append : ∀ u {t t'}, R t t' → R (u ++ t) (u ++ t') := by
    intro u t t' ht
    induction u with
    | nil => exact ht
    | cons c u ih => exact cons c ih
  -- on the length, as masking passes over secrets
  induction hn : s.length using Nat.strong_induction_on generalizing s s' before with
  | _ n ih =>
    cases h with
    | nil =>
      rw [maskFrom_nil]
      exact nil
    | @slot front behind name secret secret' t t' hslot hsecret hsecret' h =>
      apply slot before hslot hsecret hsecret'
      intro before
      refine ih (behind :: t).length ?_ h before rfl
      simp only [← hn, member, List.length_cons, List.length_append]
      omega
    | @cons t t' c h =>
      obtain hnil | ⟨d, u, hs, hv⟩ | ⟨word, link, secret, rest, hs, hann, hsecret, hrest⟩ :=
        hrule.mask_cases before (c :: t)
      · exact absurd hnil (by simp)
      · -- nothing is announced in the other text either
        obtain ⟨rfl, rfl⟩ := List.cons.inj hs
        rw [maskFrom_of_none hv, maskFrom_of_none ((h.cons c).valueAt?_eq_none hrule hv)]
        exact cons c (ih t.length (by rw [← hn]; simp) h _ rfl)
      · -- the same is announced in the other text
        have hboth := h.cons c
        rw [hs] at hboth
        obtain ⟨v', hs', hv'⟩ := Alike.exists_announced hrule hann hboth
        obtain ⟨secret', rest', rfl, hsecret', hrest', hbefore⟩ := hcuts hsecret hrest hv'
        rw [hs, hs', hrule.maskFrom_announced hann hsecret hrest,
          hrule.maskFrom_announced hann hsecret' (hrest'.ends hrest), hbefore]
        refine append word (append link (append stars (ih rest.length ?_ hrest' _ rfl)))
        have hpos : 0 < secret.length := List.length_pos_iff.2 hsecret.ne_nil
        have hlength := congrArg List.length hs
        simp only [List.length_append] at hlength
        omega

/-- A rule whose values hold no braces and commas cuts off the same values. -/
theorem cutsAlike_of_edges {rule : Rule} (hbrace : rule.isValue '{' = false)
    (hcomma : rule.isValue ',' = false) : rule.CutsAlike := by
  intro secret rest s' hsecret _ h
  have hcommon : ∀ c ∈ secret, c ≠ '{' ∧ c ≠ ',' := by
    intro c hc
    have hvalue := hsecret.isValue c hc
    constructor
    · rintro rfl
      rw [hbrace] at hvalue
      exact absurd hvalue (by decide)
    · rintro rfl
      rw [hcomma] at hvalue
      exact absurd hvalue (by decide)
  obtain ⟨rest', rfl, hrest⟩ := Alike.exists_append hcommon h
  exact ⟨secret, rest', rfl, hsecret, hrest, rfl⟩

/-! ### Slots under the three rules -/

section Slot

variable {front behind : Char} {name secret : List Char}

/-- The name of a slot has no blanks and no letters that begin the name of a header. -/
theorem IsSlot.name_chars (h : IsSlot front name behind) :
    ∀ c ∈ name, Text.isBlank c = false ∧ Text.asciiLower c ≠ 'x' := by
  have hall : (name.all fun c => !Text.isBlank c && Text.asciiLower c != 'x') = true := by
    rcases h.name with rfl | rfl <;> decide
  intro c hc
  simpa using List.all_eq_true.1 hall c hc

/-- A secret has no blanks. -/
theorem Rule.IsSecret.isBlank_eq_false (h : assignmentRule.IsSecret secret) :
    ∀ c ∈ secret, Text.isBlank c = false :=
  fun c hc => (looksForAssignment_assignmentRule.2 c (h.isValue c hc)).1

/-- The characters of a member up to what stands behind it. -/
theorem member_eq (front : Char) (name secret rest : List Char) :
    member front name secret rest = member front name secret [] ++ rest := by
  simp [member]

/-- There are no blanks in a slot. -/
theorem IsSlot.isBlank_eq_false (h : IsSlot front name behind)
    (hsecret : assignmentRule.IsSecret secret) :
    ∀ c ∈ member front name secret [], Text.isBlank c = false := by
  intro c hc
  simp only [member, List.mem_cons, List.mem_append, List.not_mem_nil, or_false] at hc
  rcases hc with rfl | rfl | hc | rfl | rfl | rfl | hc | rfl
  · rcases h.front with rfl | rfl <;> decide
  · decide
  · exact (h.name_chars c hc).1
  · decide
  · decide
  · decide
  · exact hsecret.isBlank_eq_false c hc
  · decide

/-- The rule for bearer tokens looks for none in a slot. -/
theorem IsSlot.bearerRule_maskFrom (h : IsSlot front name behind)
    (hsecret : assignmentRule.IsSecret secret) (before : Option Char) (rest : List Char) :
    bearerRule.maskFrom 0 before (member front name secret rest) =
      member front name secret (bearerRule.maskFrom 0 none rest) := by
  have hlast : ∀ c ∈ (member front name secret []).getLast?, isCueChar c = false := by
    intro c hc
    have hquote : (member front name secret []).getLast? = some '"' := by
      simp [member, List.getLast?_append, List.getLast?_cons]
    obtain rfl : '"' = c := Option.some.inj (hquote.symm.trans hc)
    decide
  rw [member_eq, bearerRule_maskFrom_append (h.isBlank_eq_false hsecret) hlast,
    isRegular_bearerRule.maskFrom_before (by decide) _ none, ← member_eq]

/-- Up to the quotation mark that ends it, a secret stays one under the rule for encoded
    credentials: what is announced in it ends in it. -/
theorem exists_registryRule_maskFrom {behind : Char} (hbehind : behind = ',' ∨ behind = '}')
    (rest : List Char) {s : List Char} (hs : ∀ c ∈ s, assignmentRule.isValue c = true)
    (before : Option Char) :
    ∃ s', (∀ c ∈ s', assignmentRule.isValue c = true) ∧
      registryRule.maskFrom 0 before (s ++ '"' :: behind :: rest) =
        s' ++ '"' :: registryRule.maskFrom 0 none (behind :: rest) := by
  have hregular := isRegular_registryRule
  -- on the length, as masking passes over what is announced
  induction hn : s.length using Nat.strong_induction_on generalizing s before with
  | _ n ih =>
    obtain hnil | ⟨c, t, hcut, hv⟩ | ⟨word, link, secret, left, hcut, hann, hsecret, hleft⟩ :=
      hregular.mask_cases before (s ++ '"' :: behind :: rest)
    · exact absurd hnil (by simp)
    · rw [hcut, maskFrom_of_none hv]
      cases s with
      | nil =>
        obtain ⟨rfl, rfl⟩ := List.cons.inj hcut
        exact ⟨[], by simp, by rw [hregular.maskFrom_before (by decide) _ none]; rfl⟩
      | cons d s =>
        obtain ⟨rfl, rfl⟩ := List.cons.inj hcut
        obtain ⟨hd, hs⟩ := List.forall_mem_cons.1 hs
        obtain ⟨s', hs', heq⟩ := ih s.length (by rw [← hn]; simp) hs (some d) rfl
        exact ⟨d :: s', List.forall_mem_cons.2 ⟨hd, hs'⟩, congrArg (d :: ·) heq⟩
    · -- the announcement and its secret do not reach what stands behind the quotation mark
      have hnot : behind ∉ word ++ (link ++ secret) := by
        simp only [List.mem_append, not_or]
        refine ⟨fun h => ?_, fun h => ?_, fun h => ?_⟩
        · have hcue := (hregular.isCueChar_of_mem hann).2 behind h
          rcases hbehind with rfl | rfl <;> exact absurd hcue (by decide)
        · have hlink := hregular.link_chars link hann.link behind h
          rcases hbehind with rfl | rfl <;> exact absurd hlink (by decide)
        · have hvalue := hsecret.isValue behind h
          rcases hbehind with rfl | rfl <;> exact absurd hvalue (by decide)
      have hcut' : (s ++ ['"']) ++ behind :: rest = (word ++ (link ++ secret)) ++ left := by
        simpa using hcut
      obtain ⟨e, hfront, rfl⟩ := Text.exists_append_of_notMem hnot hcut'
      rw [hcut, hregular.maskFrom_announced hann hsecret hleft]
      obtain rfl | ⟨e, q, rfl⟩ := List.eq_nil_or_concat e
      · -- nor do they reach the quotation mark
        obtain ⟨init, last, rfl⟩ := (List.eq_nil_or_concat secret).resolve_left hsecret.ne_nil
        obtain rfl : '"' = last := by simpa using congrArg List.getLast? hfront
        exact absurd (hsecret.isValue '"' (by simp)) (by decide)
      · have hfront' : s ++ ['"'] = (word ++ (link ++ (secret ++ e))) ++ [q] := by
          rw [hfront]
          simp
        obtain ⟨rfl, hq⟩ := List.append_inj' hfront' rfl
        obtain rfl : '"' = q := by simpa using hq
        have hpos : 0 < secret.length := List.length_pos_iff.2 hsecret.ne_nil
        have hshorter : e.length < n := by
          simp only [← hn, List.length_append]
          omega
        obtain ⟨e', he', heq⟩ := ih e.length hshorter (fun c hc => hs c (by simp [hc]))
          secret.getLast? rfl
        refine ⟨word ++ (link ++ (stars ++ e')), fun c hc => ?_, ?_⟩
        · simp only [List.mem_append] at hc
          rcases hc with hc | hc | hc | hc
          · exact hs c (by simp [hc])
          · exact hs c (by simp [hc])
          · rw [List.eq_of_mem_replicate (n := 4) hc]
            decide
          · exact he' c hc
        · rw [List.concat_append, heq]
          simp

/-- The rule for encoded credentials may mask a part of a secret, but leaves the slot. -/
theorem IsSlot.registryRule_maskFrom (h : IsSlot front name behind)
    (hsecret : assignmentRule.IsSecret secret) (before : Option Char) (rest : List Char) :
    ∃ secret', assignmentRule.IsSecret secret' ∧
      registryRule.maskFrom 0 before (member front name secret (behind :: rest)) =
        member front name secret' (registryRule.maskFrom 0 none (behind :: rest)) := by
  have hfront : ∀ c ∈ front :: '"' :: (name ++ ['"', ':', '"']), Text.asciiLower c ≠ 'x' := by
    intro c hc
    simp only [List.mem_cons, List.mem_append, List.not_mem_nil, or_false] at hc
    rcases hc with rfl | rfl | hc | rfl | rfl | rfl
    · rcases h.front with rfl | rfl <;> decide
    · decide
    · exact (h.name_chars c hc).2
    · decide
    · decide
    · decide
  obtain ⟨s', hs', heq⟩ := exists_registryRule_maskFrom h.behind rest hsecret.isValue
    ((front :: '"' :: (name ++ ['"', ':', '"'])).getLast?.or before)
  have hmasked : registryRule.maskFrom 0 before (member front name secret (behind :: rest)) =
      member front name s' (registryRule.maskFrom 0 none (behind :: rest)) := by
    have hkept := isRegular_registryRule.maskFrom_of_ne (by decide) hfront before
      (secret ++ '"' :: behind :: rest)
    rw [heq] at hkept
    simpa [member] using hkept
  refine ⟨s', ⟨?_, hs'⟩, hmasked⟩
  -- the first character of the secret has been kept
  rintro rfl
  obtain ⟨c, secret, rfl⟩ := List.exists_cons_of_ne_nil hsecret.ne_nil
  have hhead := isRegular_registryRule.head?_maskFrom
    ((front :: '"' :: (name ++ ['"', ':', '"'])).getLast?.or before)
    (c :: secret ++ '"' :: behind :: rest)
  rw [heq] at hhead
  obtain rfl : '"' = c := Option.some.inj hhead
  exact absurd (hsecret.isValue '"' List.mem_cons_self) (by decide)

/-- The rule for names that sound secret masks the secret in a slot. -/
theorem IsSlot.assignmentRule_maskFrom (h : IsSlot front name behind)
    (hsecret : assignmentRule.IsSecret secret) (before : Option Char) (rest : List Char) :
    assignmentRule.maskFrom 0 before (member front name secret rest) =
      member front name stars (assignmentRule.maskFrom 0 (some '"') rest) := by
  have hfront : isCueChar front = false := by
    rcases h.front with rfl | rfl <;> decide
  have hann : assignmentRule.Announces (some '"') name ['"', ':', '"'] := by
    refine ⟨?_, ?_⟩
    · rcases h.name with rfl | rfl
      · exact ⟨⟨"password".toList, false⟩, by simp [assignmentRule], by decide, by decide⟩
      · exact ⟨⟨"identitytoken".toList, false⟩, by simp [assignmentRule], by decide, by decide⟩
    · rw [looksForAssignment_assignmentRule.isLink_iff (by decide)]
      exact @IsAssignment.intro ['"'] [] ':' [] ['"'] .double (by simp) (.inl rfl) (by simp) .double
  have hends : assignmentRule.Ends ('"' :: rest) := by
    intro c hc
    obtain rfl : '"' = c := Option.some.inj hc
    decide
  have hmasked := isRegular_assignmentRule.maskFrom_announced hann hsecret hends
  show assignmentRule.maskFrom 0 before
    (front :: '"' :: (name ++ (['"', ':', '"'] ++ (secret ++ '"' :: rest)))) = _
  rw [maskFrom_of_none (isRegular_assignmentRule.valueAt?_cons_eq_none hfront _),
    maskFrom_of_none (isRegular_assignmentRule.valueAt?_cons_eq_none (by decide) _), hmasked,
    maskFrom_of_none (isRegular_assignmentRule.valueAt?_cons_eq_none (by decide) _)]
  rfl

end Slot

/-! ### Alike texts under the three rules -/

namespace Alike

variable {s s' : List Char}

/-- What follows the next blank of alike texts is alike. -/
theorem dropWhile (h : Alike s s') :
    Alike (s.dropWhile bearerRule.isValue) (s'.dropWhile bearerRule.isValue) := by
  induction h with
  | nil => exact .nil
  | @cons t t' c h ih =>
    by_cases hc : bearerRule.isValue c = true
    · rwa [List.dropWhile_cons_of_pos hc, List.dropWhile_cons_of_pos hc]
    · rw [List.dropWhile_cons_of_neg hc, List.dropWhile_cons_of_neg hc]
      exact h.cons c
  | @slot front behind name secret secret' t t' hslot hsecret hsecret' h ih =>
    -- a slot has no blanks
    have hpass : ∀ {secret rest : List Char}, assignmentRule.IsSecret secret →
        (member front name secret rest).dropWhile bearerRule.isValue =
          rest.dropWhile bearerRule.isValue := by
      intro secret rest hsecret
      rw [member_eq]
      apply List.dropWhile_append_of_pos
      intro c hc
      simp [bearerRule, hslot.isBlank_eq_false hsecret c hc]
    rwa [hpass hsecret, hpass hsecret']

/-- Bearer tokens are cut off alike texts with the slots in them. -/
theorem cutsAlike_bearerRule : bearerRule.CutsAlike := by
  intro secret rest s' hsecret hrest h
  obtain ⟨c, secret, rfl⟩ := List.exists_cons_of_ne_nil hsecret.ne_nil
  have hc : bearerRule.isValue c = true := hsecret.isValue c List.mem_cons_self
  obtain ⟨t, rfl⟩ := List.head?_eq_some_iff.1 h.head?_eq
  obtain ⟨secret', rest', hparted, hsecret', hrest'⟩ := exists_secret hc t
  refine ⟨secret', rest', hparted, hsecret', ?_,
    isRegular_bearerRule.maskFrom_before (by decide) _ _ _⟩
  have hdrop := h.dropWhile
  rwa [(takeWhile_isValue hsecret hrest).2, hparted, (takeWhile_isValue hsecret' hrest').2] at hdrop

/-- The rule for bearer tokens keeps texts alike. -/
theorem bearerRule_maskFrom (h : Alike s s') (before : Option Char) :
    Alike (bearerRule.maskFrom 0 before s) (bearerRule.maskFrom 0 before s') := by
  apply isRegular_bearerRule.maskFrom_alike cutsAlike_bearerRule .nil (fun c h => .cons c h) _ h
  intro front behind name secret secret' t t' before hslot hsecret hsecret' ih
  have hbehind : isCueChar behind = false := by
    rcases hslot.behind with rfl | rfl <;> decide
  have hnone := ih none
  rw [hslot.bearerRule_maskFrom hsecret, hslot.bearerRule_maskFrom hsecret']
  rw [maskFrom_of_none (isRegular_bearerRule.valueAt?_cons_eq_none hbehind _),
    maskFrom_of_none (isRegular_bearerRule.valueAt?_cons_eq_none hbehind _)] at hnone ⊢
  exact .slot hslot hsecret hsecret' hnone

/-- The rule for encoded credentials keeps texts alike. -/
theorem registryRule_maskFrom (h : Alike s s') (before : Option Char) :
    Alike (registryRule.maskFrom 0 before s) (registryRule.maskFrom 0 before s') := by
  apply isRegular_registryRule.maskFrom_alike (cutsAlike_of_edges (by decide) (by decide)) .nil
    (fun c h => .cons c h) _ h
  intro front behind name secret secret' t t' before hslot hsecret hsecret' ih
  have hbehind : isCueChar behind = false := by
    rcases hslot.behind with rfl | rfl <;> decide
  have hnone := ih none
  obtain ⟨left, hleft, heq⟩ := hslot.registryRule_maskFrom hsecret before t
  obtain ⟨right, hright, heq'⟩ := hslot.registryRule_maskFrom hsecret' before t'
  rw [heq, heq']
  rw [maskFrom_of_none (isRegular_registryRule.valueAt?_cons_eq_none hbehind _),
    maskFrom_of_none (isRegular_registryRule.valueAt?_cons_eq_none hbehind _)] at hnone ⊢
  exact .slot hslot hleft hright hnone

/-- The rule for names that sound secret makes alike texts equal. -/
theorem assignmentRule_maskFrom (h : Alike s s') (before : Option Char) :
    assignmentRule.maskFrom 0 before s = assignmentRule.maskFrom 0 before s' := by
  apply isRegular_assignmentRule.maskFrom_alike (cutsAlike_of_edges (by decide) (by decide)) rfl
    (fun c h => congrArg (c :: ·) h) _ h
  intro front behind name secret secret' t t' before hslot hsecret hsecret' ih
  rw [hslot.assignmentRule_maskFrom hsecret, hslot.assignmentRule_maskFrom hsecret', ih]

/-- Alike texts are masked alike. -/
theorem maskChars_eq (h : Alike s s') : maskChars s = maskChars s' :=
  ((h.bearerRule_maskFrom none).registryRule_maskFrom none).assignmentRule_maskFrom none

end Alike

end ImageBuild.Log
