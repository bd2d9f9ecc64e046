import Mathlib.Data.List.Forall2
import ImageBuild.Registry.Credentials
import ImageBuild.Proofs.Json.RoundTrip
import ImageBuild.Proofs.Log.SecretSlots

namespace ImageBuild.Log

open Registry (Credentials CredentialSet Field)

/-!
# Credentials as JSON in log texts — which secrets are masked whole

The value of a name that sounds secret ends at the first blank, quotation mark, comma or brace.  A
string in JSON goes on there, so that what stands behind is kept: the secrets that are masked whole
are the plain ones, without such characters.  Controls do no harm, as JSON escapes them.

* `filter_escapeAll` — what of a string ends a value once it is printed.
* `alike_printMembers` — objects are alike in print when their members are.
* `ObjectsSameButSecrets.alike` — so are credential sets that are equal but for plain secrets, in
  whatever order they list registries and fields; `SetsSameButSecrets.objects` is the order of the
  schema.
* `mask_credentials_eq_and_iff` — the masked text of credentials does not depend on their passwords
  and identity tokens as long as these are plain; and a password that is not plain can be told from
  one that is.
* `blank_in_password_survives` — such a password.
-/

/-! ### Plain secrets -/

/-- The characters of a text neither end a value nor are escaped into what does. -/
def IsPlain (s : List Char) : Prop :=
  ∀ c ∈ s, c.toNat < 0x20 ∨ assignmentRule.isValue c = true

instance (s : List Char) : Decidable (IsPlain s) :=
  decidable_of_iff ((s.all fun c => decide (c.toNat < 0x20) || assignmentRule.isValue c) = true)
    (by simp [IsPlain])

/-- Hexadecimal digits are part of values. -/
theorem isValue_of_mem_hexDigits {count n : Nat} {c : Char} (h : c ∈ Text.hexDigits count n) :
    assignmentRule.isValue c = true := by
  have hdigit : ∀ k : Fin 16, assignmentRule.isValue (Text.hexDigit k) = true := by decide
  induction count generalizing n with
  | zero => exact absurd h (by simp [Text.hexDigits])
  | succ count ih =>
    rw [Text.hexDigits, List.mem_append, List.mem_singleton] at h
    rcases h with h | rfl
    · exact ih h
    · exact hdigit ⟨n % 16, Nat.mod_lt _ (by decide)⟩

/-- Halves of pairs are part of values. -/
theorem isValue_of_half {c : Char} {unit : Nat} (h : Text.halfOf? c = some unit) :
    assignmentRule.isValue c = true := by
  obtain ⟨hc, -⟩ := Json.halfOf?_eq_some h
  have hne : ∀ d : Char, d.toNat < 0x70000 → c ≠ d := by
    rintro d hd rfl
    omega
  rw [isValue_assignmentRule_eq_true_iff]
  refine ⟨?_, hne _ (by decide), hne _ (by decide), hne _ (by decide), hne _ (by decide),
    hne _ (by decide)⟩
  simp only [Text.isBlank, Bool.or_eq_false_iff, Bool.and_eq_false_iff, decide_eq_false_iff_not,
    beq_eq_false_iff_ne]
  omega

/-- A character that ends a value of the rule for names that sound secret. -/
def endsValue (c : Char) : Bool := !assignmentRule.isValue c

/-- What of a character ends a value once it is printed: the character itself, unless it is a
    control. -/
theorem filter_escape (c : Char) : (Json.escape c).filter endsValue =
    [c].filter fun d => decide (0x20 ≤ d.toNat) && endsValue d := by
  have hhex : ∀ n, ('\\' :: 'u' :: Text.hexDigits 4 n).filter endsValue = [] := by
    intro n
    rw [List.filter_eq_nil_iff]
    intro d hd
    have hvalue : assignmentRule.isValue d = true := by
      rcases List.mem_cons.1 hd with rfl | hd
      · decide
      rcases List.mem_cons.1 hd with rfl | hd
      · decide
      · exact isValue_of_mem_hexDigits hd
    simp [endsValue, hvalue]
  -- the characters that are escaped by a letter
  have hletter : (['"', '\\', '\n', '\r', '\t', Char.ofNat 8, Char.ofNat 12].all fun d =>
      (Json.escape d).filter endsValue ==
        [d].filter fun d => decide (0x20 ≤ d.toNat) && endsValue d) = true := by decide
  by_cases hc : c ∈ ['"', '\\', '\n', '\r', '\t', Char.ofNat 8, Char.ofNat 12]
  · exact eq_of_beq (List.all_eq_true.1 hletter c hc)
  simp only [List.mem_cons, List.not_mem_nil, or_false, not_or] at hc
  obtain ⟨h1, h2, h3, h4, h5, h6, h7⟩ := hc
  rw [Json.escape, if_neg h1, if_neg h2, if_neg h3, if_neg h4, if_neg h5, if_neg h6, if_neg h7]
  by_cases hcontrol : c.toNat < 0x20
  · rw [if_pos hcontrol, hhex]
    simp [Nat.not_le.2 hcontrol]
  · rw [if_neg hcontrol]
    cases hhalf : Text.halfOf? c with
    | none => simp [List.filter_cons, Nat.not_lt.1 hcontrol]
    | some unit =>
      show ('\\' :: 'u' :: Text.hexDigits 4 unit).filter endsValue = _
      rw [hhex]
      simp [endsValue, isValue_of_half hhalf]

/-- What of a string ends a value once it is printed: its characters that do, but for controls. -/
theorem filter_escapeAll (s : List Char) : (Json.escapeAll s).filter endsValue =
    s.filter fun d => decide (0x20 ≤ d.toNat) && endsValue d := by
  fun_induction Json.escapeAll s with
  | case1 => rfl
  | case2 c => exact filter_escape c
  | case3 c d s hpair ih =>
    obtain ⟨first, second, hc, hd⟩ := Json.halves_of_isSplitPair hpair
    have hc' : endsValue c = false := by simp [endsValue, isValue_of_half hc]
    have hd' : endsValue d = false := by simp [endsValue, isValue_of_half hd]
    simp [hc', hd', ih]
  | case4 c d s _ ih => rw [List.filter_append, filter_escape, ih, ← List.filter_append]; rfl

/-- The plain texts are those that are part of a value once they are printed. -/
theorem isPlain_iff (s : List Char) :
    IsPlain s ↔ ∀ c ∈ Json.escapeAll s, assignmentRule.isValue c = true := by
  have hprinted : (∀ c ∈ Json.escapeAll s, assignmentRule.isValue c = true) ↔
      (Json.escapeAll s).filter endsValue = [] := by
    simp [List.filter_eq_nil_iff, endsValue]
  rw [hprinted, filter_escapeAll, List.filter_eq_nil_iff]
  apply forall₂_congr
  intro c _
  by_cases hc : c.toNat < 0x20
  · simp [hc, endsValue, Nat.not_le.2 hc]
  · simp [hc, endsValue, Nat.not_lt.1 hc]

/-- A text that is a secret in print: it is given, and plain. -/
structure IsPlainSecret (v : String) : Prop where
  ne_empty : v ≠ ""
  isPlain : IsPlain v.toList

/-- In print it is a secret as the rule sees it. -/
theorem IsPlainSecret.isSecret {v : String} (h : IsPlainSecret v) :
    assignmentRule.IsSecret (Json.escapeAll v.toList) := by
  refine ⟨fun hnil => h.ne_empty ?_, (isPlain_iff v.toList).1 h.isPlain⟩
  -- only the empty string is printed as nothing, since it is read back
  have hread := Json.readString?_quote v.toList []
  rw [hnil, String.ofList_toList] at hread
  have hempty := hread.symm.trans (Json.readString?_quote [] [])
  exact congrArg Prod.fst (Option.some.inj hempty)

/-! ### Objects that print alike -/

/-- Members of an object that are alike in print, wherever they stand. -/
def PrintAlike (m m' : String × Json) : Prop :=
  ∀ ⦃front behind s s'⦄, (front = '{' ∨ front = ',') → (behind = ',' ∨ behind = '}') →
    Alike (behind :: s) (behind :: s') →
    Alike (front :: (Json.quote m.1.toList ++ ':' :: (Json.print m.2 ++ behind :: s)))
      (front :: (Json.quote m'.1.toList ++ ':' :: (Json.print m'.2 ++ behind :: s')))

/-- A member is alike to itself. -/
theorem PrintAlike.refl (m : String × Json) : PrintAlike m m := by
  intro front behind s s' _ _ h
  exact .cons front (.append_left _ (.cons ':' (.append_left _ h)))

/-- Plain secrets are alike. -/
theorem printAlike_of_isPlainSecret {name : String}
    (hname : name = "password" ∨ name = "identitytoken") {v v' : String} (hv : IsPlainSecret v)
    (hv' : IsPlainSecret v') :
    PrintAlike (name, .string v) (name, .string v') := by
  intro front behind s s' hfront hbehind h
  have hslot : IsSlot front name.toList behind := by
    refine ⟨hfront, ?_, hbehind⟩
    rcases hname with rfl | rfl
    · exact .inl rfl
    · exact .inr rfl
  have hescape : Json.escapeAll name.toList = name.toList := by
    rcases hname with rfl | rfl <;> decide
  have halike := Alike.slot hslot hv.isSecret hv'.isSecret h
  simpa [member, hescape, Json.print, Json.quote] using halike

/-- Objects are alike in print when their members are. -/
theorem alike_printMembers {ms ms' : List (String × Json)} (h : List.Forall₂ PrintAlike ms ms')
    {front : Char} (hfront : front = '{' ∨ front = ',') {s s' : List Char}
    (hrest : Alike ('}' :: s) ('}' :: s')) :
    Alike (front :: (Json.printMembers ms ++ '}' :: s))
      (front :: (Json.printMembers ms' ++ '}' :: s')) := by
  induction h generalizing front with
  | nil => exact .cons front hrest
  | @cons m m' ms ms' hm hms ih =>
    cases hms with
    | nil =>
      have hlast := hm hfront (.inr rfl) hrest
      simpa [Json.printMembers] using hlast
    | @cons n n' ms ms' hn hms =>
      have hmore := hm hfront (.inl rfl) (ih (.inr rfl))
      rw [Json.printMembers_cons_cons, Json.printMembers_cons_cons]
      simpa using hmore

/-- So is a member whose value is such an object. -/
theorem printAlike_object (name : String) {ms ms' : List (String × Json)}
    (h : List.Forall₂ PrintAlike ms ms') : PrintAlike (name, .object ms) (name, .object ms') := by
  intro front behind s s' _ _ hrest
  have hinner := alike_printMembers h (.inl rfl) (hrest.cons '}')
  refine .cons front (.append_left _ (.cons ':' ?_))
  simpa [Json.print] using hinner

/-! ### Credentials -/

/-- A field of credentials that is the same, or a plain secret both times. -/
inductive SameButSecret : Field → Field → Prop
  | same (f : Field) : SameButSecret f f
  | secret {v v' : String} (hv : IsPlainSecret v) (hv' : IsPlainSecret v') :
    SameButSecret (.text v) (.text v')

/-- Credentials that are equal but for plain secrets in their passwords and identity tokens. -/
structure SameButSecrets (c c' : Credentials) : Prop where
  username : c'.username = c.username
  password : SameButSecret c.password c'.password
  email : c'.email = c.email
  serverAddress : c'.serverAddress = c.serverAddress
  identityToken : SameButSecret c.identityToken c'.identityToken

/-- Credential sets for the same registries that are equal but for plain secrets. -/
def SetsSameButSecrets (set set' : CredentialSet) : Prop :=
  List.Forall₂ (fun m m' => m.1 = m'.1 ∧ SameButSecrets m.2 m'.2) set set'

/-! ### Credentials as objects -/

/-- A member of credentials that is the same, or a plain secret both times. -/
inductive MemberSameButSecret : String × Json → String × Json → Prop
  | same (m : String × Json) : MemberSameButSecret m m
  | secret {name : String} (hname : name = "password" ∨ name = "identitytoken") {v v' : String}
    (hv : IsPlainSecret v) (hv' : IsPlainSecret v') :
    MemberSameButSecret (name, .string v) (name, .string v')

/-- The credentials of one registry, with the same members in the same order but for plain secrets. -/
inductive EntrySameButSecrets : String × Json → String × Json → Prop
  | intro (registry : String) {ms ms' : Members Json} (h : List.Forall₂ MemberSameButSecret ms ms') :
    EntrySameButSecrets (registry, .object ms) (registry, .object ms')

/-- Credential sets as objects that are equal but for plain secrets.  Nothing is said about the order
    of registries and fields, as long as it is the same in both. -/
def ObjectsSameButSecrets (set set' : Members Json) : Prop :=
  List.Forall₂ EntrySameButSecrets set set'

/-- Such members are alike in print. -/
theorem MemberSameButSecret.printAlike {m m' : String × Json} (h : MemberSameButSecret m m') :
    PrintAlike m m' := by
  cases h with
  | same => exact .refl m
  | secret hname hv hv' => exact printAlike_of_isPlainSecret hname hv hv'

/-- So are such entries. -/
theorem EntrySameButSecrets.printAlike {m m' : String × Json} (h : EntrySameButSecrets m m') :
    PrintAlike m m' := by
  cases h with
  | intro registry h => exact printAlike_object registry (h.imp fun _ _ hm => hm.printAlike)

/-- And so are such sets. -/
theorem ObjectsSameButSecrets.alike {set set' : Members Json} (h : ObjectsSameButSecrets set set') :
    Alike (Json.print (.object set)) (Json.print (.object set')) := by
  have halike := alike_printMembers (h.imp fun _ _ hm => hm.printAlike) (.inl rfl) (.refl ['}'])
  simpa [Json.print] using halike

/-- The members of credentials, in the order of the schema. -/
def membersOf (c : Credentials) : Members Json :=
  (Credentials.fieldNames.zip c.fields).filterMap fun (name, field) =>
    field.toJson?.map fun value => (name, value)

/-- In the order of the schema, credentials that are equal but for plain secrets have members that
    are. -/
theorem SameButSecrets.members {c c' : Credentials} (h : SameButSecrets c c') :
    List.Forall₂ MemberSameButSecret (membersOf c) (membersOf c') := by
  obtain ⟨username, password, email, serverAddress, identityToken⟩ := c
  obtain ⟨username', password', email', serverAddress', identityToken'⟩ := c'
  obtain ⟨rfl, hpassword, rfl, rfl, htoken⟩ := h
  let memberOf : String × Field → Option (String × Json) := fun p =>
    p.2.toJson?.map fun value => (p.1, value)
  -- field by field
  let R : String × Field → String × Field → Prop := fun p p' =>
    Option.Rel MemberSameButSecret (memberOf p) (memberOf p')
  have hsame : ∀ name f, R (name, f) (name, f) := by
    intro name f
    cases f with
    | absent => exact .none
    | null => exact .some (.same _)
    | text v => exact .some (.same _)
  have hsecret : ∀ {name f f'}, name = "password" ∨ name = "identitytoken" →
      SameButSecret f f' → R (name, f) (name, f') := by
    rintro name f f' hname (_ | ⟨hv, hv'⟩)
    · exact hsame name f
    · exact .some (.secret hname hv hv')
  apply List.rel_filterMap (R := R) (P := MemberSameButSecret) (fun _ _ h => h)
  exact .cons (hsame _ _) (.cons (hsecret (.inl rfl) hpassword) (.cons (hsame _ _)
    (.cons (hsame _ _) (.cons (hsecret (.inr rfl) htoken) .nil))))

/-- In the order of the schema, sets that are equal but for plain secrets are so as objects. -/
theorem SetsSameButSecrets.objects {set set' : CredentialSet} (h : SetsSameButSecrets set set') :
    ObjectsSameButSecrets (set.map fun m => (m.1, m.2.toJson))
      (set'.map fun m => (m.1, m.2.toJson)) := by
  rw [ObjectsSameButSecrets, List.forall₂_map_left_iff, List.forall₂_map_right_iff]
  apply h.imp
  rintro ⟨registry, c⟩ ⟨registry', c'⟩ ⟨rfl, hsame⟩
  exact .intro registry hsame.members

/-! ### A password alone -/

/-- Credentials of one registry, with nothing but a password. -/
def passwordOnly (v : String) : CredentialSet := [("registry.example", { password := .text v })]

/-- What stands in front of the password in print. -/
def passwordFront : List Char :=
  '{' :: "\"registry.example\":".toList ++ '{' :: "\"password\":\"".toList

/-- The password in print. -/
theorem print_passwordOnly (v : String) : Json.print (passwordOnly v).toJson =
    passwordFront ++ (Json.escapeAll v.toList ++ ['"', '}', '}']) := by
  have hfields : (Credentials.toJson { password := .text v }) =
      .object [("password", .string v)] := rfl
  have hregistry : Json.quote "registry.example".toList = "\"registry.example\"".toList := by decide
  have hpassword : Json.quote "password".toList = "\"password\"".toList := by decide
  have hvalue : Json.quote v.toList = '"' :: Json.escapeAll v.toList ++ ['"'] := rfl
  simp only [passwordOnly, CredentialSet.toJson, List.map_cons, List.map_nil, hfields, Json.print,
    Json.printMembers, hregistry, hpassword, hvalue]
  simp [passwordFront]

/-- Encoded credentials hold nothing that ends a value. -/
theorem endsValue_of_isValue {c : Char} (h : registryRule.isValue c = true) :
    endsValue c = false := by
  have hcode := toNat_of_isValue_registryRule h
  have hblank := (looksForAssignment_registryRule.2 c h).1
  have hne : ∀ d : Char, (d.toNat < 40 ∨ d.toNat = 44 ∨ 123 ≤ d.toNat) → c ≠ d := by
    rintro d hd rfl
    omega
  have hvalue : assignmentRule.isValue c = true := by
    rw [isValue_assignmentRule_eq_true_iff]
    exact ⟨hblank, hne _ (by decide), hne _ (by decide), hne _ (by decide), hne _ (by decide),
      hne _ (by decide)⟩
  simp [endsValue, hvalue]

/-- Masking keeps blanks. -/
theorem filter_isBlank_maskChars (s : List Char) :
    (maskChars s).filter Text.isBlank = s.filter Text.isBlank := by
  have hstar : Text.isBlank '*' = false := by decide
  unfold maskChars Rule.mask
  rw [isRegular_assignmentRule.filter_maskFrom
      (fun c hc => (looksForAssignment_assignmentRule.2 c hc).1) hstar,
    isRegular_registryRule.filter_maskFrom
      (fun c hc => (looksForAssignment_registryRule.2 c hc).1) hstar,
    isRegular_bearerRule.filter_maskFrom (fun c hc => by simpa [bearerRule] using hc) hstar]

/-- Masking keeps what ends a value, in a text without blanks that does not end with a letter. -/
theorem filter_endsValue_maskChars {s : List Char} (hs : ∀ c ∈ s, Text.isBlank c = false)
    (hlast : ∀ c ∈ s.getLast?, isCueChar c = false) :
    (maskChars s).filter endsValue = s.filter endsValue := by
  have hstar : endsValue '*' = false := by decide
  have hbearer : bearerRule.mask s = s := by
    have hkept := bearerRule_maskFrom_append hs hlast none []
    rwa [List.append_nil, maskFrom_nil, List.append_nil] at hkept
  rw [maskChars, hbearer]
  unfold Rule.mask
  rw [isRegular_assignmentRule.filter_maskFrom (fun c hc => by simp [endsValue, hc]) hstar,
    isRegular_registryRule.filter_maskFrom (fun c hc => endsValue_of_isValue hc) hstar]

/-- A password that is masked like a plain one is plain. -/
theorem isPlain_of_mask_eq {v w : String} (hw : IsPlainSecret w)
    (h : maskChars (Json.print (passwordOnly v).toJson) =
      maskChars (Json.print (passwordOnly w).toJson)) : IsPlain v.toList := by
  have hnone : (Json.escapeAll w.toList).filter endsValue = [] := by
    rw [List.filter_eq_nil_iff]
    intro c hc
    simp [endsValue, hw.isSecret.isValue c hc]
  have hlast : ∀ v : String, ∀ c ∈ (Json.print (passwordOnly v).toJson).getLast?,
      isCueChar c = false := by
    intro v c hc
    have hbrace : (Json.print (passwordOnly v).toJson).getLast? = some '}' := by
      simp [print_passwordOnly, List.getLast?_append]
    obtain rfl : '}' = c := Option.some.inj (hbrace.symm.trans hc)
    decide
  -- there are no blanks in the one text, so that there are none in the other
  have hblank : (Json.print (passwordOnly w).toJson).filter Text.isBlank = [] := by
    have hsecret : (Json.escapeAll w.toList).filter Text.isBlank = [] := by
      rw [List.filter_eq_nil_iff]
      intro c hc
      simp [hw.isSecret.isBlank_eq_false c hc]
    rw [print_passwordOnly, List.filter_append, List.filter_append, hsecret]
    decide
  have hblank' : (Json.print (passwordOnly v).toJson).filter Text.isBlank = [] := by
    rw [← filter_isBlank_maskChars, h, filter_isBlank_maskChars, hblank]
  have hfree : ∀ {s : List Char}, s.filter Text.isBlank = [] → ∀ c ∈ s, Text.isBlank c = false := by
    intro s hs c hc
    simpa using List.filter_eq_nil_iff.1 hs c hc
  -- and then the characters that end a value are the same
  have hends : (Json.escapeAll v.toList).filter endsValue = [] := by
    have hsame : (Json.print (passwordOnly v).toJson).filter endsValue =
        (Json.print (passwordOnly w).toJson).filter endsValue := by
      rw [← filter_endsValue_maskChars (hfree hblank') (hlast v), h,
        filter_endsValue_maskChars (hfree hblank) (hlast w)]
    rw [print_passwordOnly, print_passwordOnly, List.filter_append, List.filter_append,
      List.filter_append, List.filter_append] at hsame
    rw [List.append_cancel_right (List.append_cancel_left hsame), hnone]
  rw [isPlain_iff]
  intro c hc
  simpa [endsValue] using List.filter_eq_nil_iff.1 hends c hc

/-! ### Main result -/

/-- Of credentials as JSON no part of a plain password or identity token survives masking: the
    masked text is the same for all of them, whatever the other fields, their order and the names of
    registries are.  But a password that is not plain is not masked like one that is. -/
theorem mask_credentials_eq_and_iff {set set' : Members Json} (h : ObjectsSameButSecrets set set')
    {v w : String} (hv : v ≠ "") (hw : IsPlainSecret w) :
    mask (Json.text (.object set)) = mask (Json.text (.object set')) ∧
      (mask (Json.text (passwordOnly v).toJson) = mask (Json.text (passwordOnly w).toJson) ↔
        IsPlain v.toList) := by
  have hmask : ∀ value : Json,
      mask (Json.text value) = String.ofList (maskChars (Json.print value)) := fun value => by
    rw [mask, Json.text, String.toList_ofList]
  rw [hmask, hmask, hmask, hmask]
  refine ⟨congrArg String.ofList h.alike.maskChars_eq, ?_, ?_⟩
  · intro heq
    exact isPlain_of_mask_eq hw (String.ofList_injective heq)
  · intro hplain
    have hsets : SetsSameButSecrets (passwordOnly v) (passwordOnly w) :=
      .cons ⟨rfl, rfl, .secret ⟨hv, hplain⟩ hw, rfl, rfl, .same _⟩ .nil
    exact congrArg String.ofList hsets.objects.alike.maskChars_eq

/-- Credentials of two registries, one with a password and one with an identity token, which stands
    in front of the address of its server. -/
def twoSecrets (password token : String) : Members Json :=
  [("registry.example",
      .object [("username", .string "bearer of, news"), ("password", .string password)]),
    ("10.0.0.5:5000", .object [("identitytoken", .string token),
      ("serveraddress", .string "10.0.0.5:5000"), ("email", .null)])]

/-- Secrets of different lengths, with an escape and with an announcement in them; and a password of
    two words. -/
theorem two_secrets_masked :
    (ObjectsSameButSecrets (twoSecrets "s3cret" "x-registry-auth=abc") (twoSecrets "a\\b:c\n" "t") ∧
      "two words" ≠ "" ∧ IsPlainSecret "abc") ∧
    mask (Json.text (.object (twoSecrets "s3cret" "x-registry-auth=abc"))) =
        mask (Json.text (.object (twoSecrets "a\\b:c\n" "t"))) ∧
      (mask (Json.text (passwordOnly "two words").toJson) =
        mask (Json.text (passwordOnly "abc").toJson) ↔ IsPlain "two words".toList) := by
  have hpassword : MemberSameButSecret ("password", .string "s3cret")
      ("password", .string "a\\b:c\n") :=
    .secret (.inl rfl) ⟨by decide, by decide⟩ ⟨by decide, by decide⟩
  have htoken : MemberSameButSecret ("identitytoken", .string "x-registry-auth=abc")
      ("identitytoken", .string "t") :=
    .secret (.inr rfl) ⟨by decide, by decide⟩ ⟨by decide, by decide⟩
  have hsets : ObjectsSameButSecrets (twoSecrets "s3cret" "x-registry-auth=abc")
      (twoSecrets "a\\b:c\n" "t") :=
    .cons (.intro _ (.cons (.same _) (.cons hpassword .nil)))
      (.cons (.intro _ (.cons htoken (.cons (.same _) (.cons (.same _) .nil)))) .nil)
  have hplain : IsPlainSecret "abc" := ⟨by decide, by decide⟩
  exact ⟨⟨hsets, by decide, hplain⟩, mask_credentials_eq_and_iff hsets (by decide) hplain⟩

/-- What stands behind a blank in a password survives. -/
theorem blank_in_password_survives :
    mask (Json.text (passwordOnly "correct horse").toJson) ≠
      mask (Json.text (passwordOnly "abc").toJson) ∧
    mask (Json.text (passwordOnly "correct horse").toJson) =
      "\x7b\"registry.example\":\x7b\"password\":\"**** horse\"\x7d\x7d" := by
  decide

end ImageBuild.Log
