import ImageBuild.Proofs.Registry.Defects
import ImageBuild.Proofs.Registry.HeaderRoundTrip

namespace ImageBuild.Registry

/-!
# Canonical header values — decoding any text, and writing it anew

A header value is refused for its form, for the text in it, for the kind of the value that the text
denotes, or for a place in this value (`IsRefused`).  Every other value decodes to a set that is
listed in order (`exists_of_not_isRefused`), and such a set is written in one way, which decodes to
it again (`decode_headerOf`).  So writing what was decoded gives one value for each set.
-/

/-- Why a header value is refused. -/
inductive IsRefused (value : String) : Prop
  /-- It is not base64. -/
  | form (h : ¬ Text.Base64.HasForm value.toList)
  /-- The text in it is no JSON. -/
  | text (h : Json.parse? (textOf value) = none)
  /-- The text denotes a value that is no object. -/
  | kind {found : Json} (h : Json.parse? (textOf value) = some found) (hkind : found.kind ≠ .object)
  /-- Something in the object is of another kind than its place admits. -/
  | place {own : Members Json} {p : Place} {v : Json}
    (h : Json.parse? (textOf value) = some (.object own)) (hoffends : Offends own p v)

/-- A header value that is written anew from what it decodes to. -/
def canonicalize (value : String) : Except ClientError String := do
  encode (.ofJson (CredentialSet.toJson (← decode value)))

variable {value : String}

/-! ### What is refused -/

/-- Header values are refused with encoding errors. -/
theorem kind_of_decode {e : ClientError} (h : decode value = .error e) : e.kind = .encoding := by
  unfold decode at h
  split at h
  · split at h
    · -- the check tells issues and nothing else
      unfold Source.check at h
      split at h <;> cases h
      rfl
    · cases h
      rfl
  · cases h
    rfl

/-- A value that has the form is checked when its text denotes something. -/
theorem decode_of_parse? (hform : Text.Base64.HasForm value.toList) {found : Json}
    (h : Json.parse? (textOf value) = some found) :
    decode value = (Source.ofJson found).check := by
  rw [← Text.Base64.isWellFormed_iff_hasForm] at hform
  rw [decode, if_pos hform, h]

/-- Every reason is one to refuse a value. -/
theorem IsRefused.decode_eq_error (h : IsRefused value) : ∃ e, decode value = .error e := by
  -- the form is looked at first, so that the other reasons are only met where it is right
  by_cases hform : Text.Base64.HasForm value.toList
  · cases h with
    | form hnot => exact absurd hform hnot
    | text hnone =>
      rw [← Text.Base64.isWellFormed_iff_hasForm] at hform
      exact ⟨.headerNotJson, by rw [decode, if_pos hform, hnone]⟩
    | @kind found hfound hkind =>
      rw [decode_of_parse? hform hfound]
      cases found with
      | object own => exact absurd rfl hkind
      | _ => exact ⟨_, rfl⟩
    | @place own p v hfound hoffends =>
      rw [decode_of_parse? hform hfound]
      exact ⟨_, check_of_issues ((issues_ne_nil_iff own).2 ⟨p, v, hoffends⟩)⟩
  · rw [← Text.Base64.isWellFormed_iff_hasForm] at hform
    exact ⟨.headerNotBase64, by rw [decode, if_neg hform]⟩

/-- What there is no reason to refuse is read: its text denotes an object of well-formed entries,
    and it decodes to the credentials of these. -/
theorem exists_of_not_isRefused (h : ¬ IsRefused value) :
    ∃ own : Members Json, Json.parse? (textOf value) = some (.object own) ∧
      (∀ m ∈ own, IsCredentialEntry m.2) ∧
      decode value =
        .ok ((own.erase Members.reservedName).map fun m => (m.1, credentialsOf m.2)) := by
  have hform : Text.Base64.HasForm value.toList := by_contra fun hnot => h (.form hnot)
  cases hfound : Json.parse? (textOf value) with
  | none => exact absurd (.text hfound) h
  | some found =>
    cases found with
    | object own =>
      have hentries : ∀ m ∈ own, IsCredentialEntry m.2 := by
        rw [← issues_object_eq_nil_iff]
        by_contra hissues
        obtain ⟨p, v, hoffends⟩ := (issues_ne_nil_iff own).1 hissues
        exact h (.place hfound hoffends)
      have hdecode := decode_of_parse? hform hfound
      rw [check_of_isCredentialEntry hentries] at hdecode
      exact ⟨own, rfl, hentries, hdecode⟩
    | _ => exact absurd (.kind hfound (by simp [Json.kind])) h

/-! ### What is read -/

/-- An object of well-formed entries is a credential set, but for the reserved name. -/
theorem isCredentialSet_erase {own : Members Json} (hlisted : own.IsListed)
    (hentries : ∀ m ∈ own, IsCredentialEntry m.2) :
    IsCredentialSet (own.erase Members.reservedName) where
  listed := hlisted.erase Members.reservedName
  unreserved _ hm := Members.ne_of_mem_erase hm
  entries m hm := hentries m (List.mem_filter.1 hm).1

/-- A set without the reserved name is written in its own header value. -/
theorem encode_toJson {set : CredentialSet} (hnames : ∀ c ∈ set, c.1 ≠ Members.reservedName) :
    encode (.ofJson (CredentialSet.toJson set)) = .ok (headerOf set) := by
  rw [encode, check_toJson hnames]
  rfl

/-- Credentials as an object have credential fields alone. -/
theorem mem_fieldNames_of_get?_toJson {c : Credentials} {name : String} {v : Json}
    (h : c.toJson.get? name = some v) : name ∈ Credentials.fieldNames ∧ IsFieldValue v := by
  by_cases hname : name ∈ Credentials.fieldNames
  · exact ⟨hname, (isCredentialEntry_toJson c).2 name hname v h⟩
  · rw [Credentials.get?_toJson_of_notMem c hname] at h
    cases h

/-- **Decoding any text.**  A header value is refused exactly when it is not base64, the text in it
    is no JSON, this denotes no object, or something in the object is of another kind than its place
    admits; it is always refused with an encoding error.  Every other value decodes to the
    registries of the object in their order, but for the reserved name, each with its credential
    fields, null or text, and nothing else.  This set is encoded and decodes to itself, so that
    writing a value anew gives one that stays the same when it is written anew. -/
theorem decode_any_value (value : String) :
    ((∃ e, decode value = .error e) ↔ IsRefused value) ∧
    (∀ e, decode value = .error e → e.kind = .encoding) ∧
    ∀ set, decode value = .ok set →
      (∃ own : Members Json, Json.parse? (textOf value) = some (.object own) ∧
        Recovers (own.erase Members.reservedName) set) ∧
      (∀ c ∈ set, ∀ name v, c.2.toJson.get? name = some v →
        name ∈ Credentials.fieldNames ∧ IsFieldValue v) ∧
      ∃ header, encode (.ofJson (CredentialSet.toJson set)) = .ok header ∧
        decode header = .ok set ∧ canonicalize value = .ok header ∧
        canonicalize header = .ok header := by
  by_cases h : IsRefused value
  · obtain ⟨e, he⟩ := h.decode_eq_error
    refine ⟨⟨fun _ => h, fun _ => ⟨e, he⟩⟩, fun _ => kind_of_decode, fun set hset => ?_⟩
    rw [he] at hset
    cases hset
  · obtain ⟨own, hfound, hentries, hdecode⟩ := exists_of_not_isRefused h
    refine ⟨⟨fun ⟨e, he⟩ => ?_, fun hrefused => absurd hrefused h⟩, fun _ => kind_of_decode,
      fun set hset => ?_⟩
    · rw [hdecode] at he
      cases he
    · -- what the text denotes is listed in order, so that the set survives the way through a header
      have hcredentials := isCredentialSet_erase (Json.isListed_of_parse? hfound) hentries
      have hrecovers := recovers_map_credentialsOf hcredentials
      obtain ⟨-, hheader⟩ := encode_of_isCredentialSet hcredentials
      rw [hdecode, Except.ok.injEq] at hset
      rw [hset] at hdecode hheader hrecovers
      have hnames : ∀ c ∈ set, c.1 ≠ Members.reservedName := by
        intro c hc
        rw [← hset] at hc
        obtain ⟨m, hm, rfl⟩ := List.mem_map.1 hc
        exact hcredentials.unreserved m hm
      have hencode := encode_toJson hnames
      refine ⟨⟨own, hfound, hrecovers⟩, fun c _ name v => mem_fieldNames_of_get?_toJson,
        headerOf set, hencode, hheader, ?_, ?_⟩
      · rw [canonicalize, hdecode]
        exact hencode
      · rw [canonicalize, hheader]
        exact hencode

/-- The base64 text, without its padding, of an object that gives a registry twice, lists an index
    name and the reserved name behind it, and has a member that is no credential field. -/
def looseValue : String :=
  "eyJiIjp7InVzZXJuYW1lIjoieCIsIm5vdGUiOnRydWV9LCAiMSI6e30sIl9f" ++
    "cHJvdG9fXyI6e30sImIiOnsiZW1haWwiOm51bGx9fQ"

/-- The loose value decodes to two registries, and the value that is written for them stays the same
    when it is written anew. -/
theorem loose_value_written_anew :
    decode looseValue = .ok [("1", {}), ("b", { email := .null })] ∧
      ∃ header, canonicalize looseValue = .ok header ∧ canonicalize header = .ok header ∧
        decode header = .ok [("1", {}), ("b", { email := .null })] := by
  have hread : (decode looseValue).toOption = some [("1", {}), ("b", { email := .null })] := by
    decide +kernel
  have hdecode : decode looseValue = .ok [("1", {}), ("b", { email := .null })] := by
    cases hvalue : decode looseValue with
    | error e => simp [hvalue, Except.toOption] at hread
    | ok set => simpa [hvalue, Except.toOption] using hread
  obtain ⟨-, -, hanew⟩ := decode_any_value looseValue
  obtain ⟨-, -, header, -, hheader, hfirst, hagain⟩ := hanew _ hdecode
  exact ⟨hdecode, header, hfirst, hagain, hheader⟩

end ImageBuild.Registry
