import ImageBuild.Registry.Header
import ImageBuild.Proofs.Registry.Sets
import ImageBuild.Proofs.Text.Base64
import ImageBuild.Proofs.Text.Utf8
import Mathlib.Data.List.Forall2

namespace ImageBuild.Registry

/-!
# The header round trip — what is sent is what the daemon reads

A header value is JSON in UTF-8 in base64.  Each of the three steps is undone by its reader, so a
header value decodes to the set that it was made from (`decode_headerOf`).  The check on both sides
keeps the registries, their order, and the five fields of each (`encode_of_isCredentialSet`,
`recovers_map_credentialsOf`), and lets a set through as it is (`check_toJson`).
-/

/-- A set as an object has the credentials of each registry as an object. -/
theorem CredentialSet.toJson_eq (set : CredentialSet) :
    CredentialSet.toJson set = .object (set.map fun c => (c.1, c.2.toJson)) := rfl

/-- A set as an object is read back when its registries are listed in order. -/
theorem CredentialSet.isTextual_toJson {set : CredentialSet} (hlisted : Members.IsListed set) :
    (CredentialSet.toJson set).IsTextual := by
  rw [toJson_eq]
  refine .object ((Members.isListed_map Credentials.toJson).2 hlisted) ?_
  intro m hm
  obtain ⟨c, -, rfl⟩ := List.mem_map.1 hm
  exact c.2.isTextual_toJson

/-- The text in a header value is the printed set. -/
theorem textOf_headerOf (set : CredentialSet) :
    textOf (headerOf set) = Json.print (CredentialSet.toJson set) := by
  rw [textOf, headerOf, String.toList_ofList, Text.Base64.decode_encode, Text.Utf8.decode_encode]

/-- A set as an object passes the check as it is. -/
theorem check_toJson {set : CredentialSet} (hnames : ∀ c ∈ set, c.1 ≠ Members.reservedName) :
    (Source.ofJson (CredentialSet.toJson set)).check = .ok set := by
  have hentries : ∀ m ∈ set.map fun c => (c.1, c.2.toJson), IsCredentialEntry m.2 := by
    intro m hm
    obtain ⟨c, -, rfl⟩ := List.mem_map.1 hm
    exact isCredentialEntry_toJson c.2
  have herase : Members.erase (set.map fun c => (c.1, c.2.toJson)) Members.reservedName =
      set.map fun c => (c.1, c.2.toJson) := by
    refine Members.erase_of_forall_ne fun m hm => ?_
    obtain ⟨c, hc, rfl⟩ := List.mem_map.1 hm
    exact hnames c hc
  rw [CredentialSet.toJson_eq, check_of_isCredentialEntry hentries, herase]
  simp [Function.comp_def, credentialsOf_toJson]

/-- A header value decodes to the set that it was made from. -/
theorem decode_headerOf {set : CredentialSet} (hlisted : Members.IsListed set)
    (hnames : ∀ c ∈ set, c.1 ≠ Members.reservedName) : decode (headerOf set) = .ok set := by
  have hform : Text.Base64.isWellFormed (headerOf set).toList = true := by
    rw [headerOf, String.toList_ofList]
    exact Text.Base64.isWellFormed_encode _
  rw [decode, if_pos hform, textOf_headerOf,
    Json.parse?_print (CredentialSet.isTextual_toJson hlisted)]
  exact check_toJson hnames

/-- A credential set as a caller gives it: an object, listed in order and without the reserved
    name, whose entries have credential fields of the right form. -/
structure IsCredentialSet (own : Members Json) : Prop where
  listed : own.IsListed
  unreserved : ∀ m ∈ own, m.1 ≠ Members.reservedName
  entries : ∀ m ∈ own, IsCredentialEntry m.2

/-- Two lists of registries have the same registries in the same order, and the entries of a
    registry have the same credential fields. -/
def SameCredentials (own other : Members Json) : Prop :=
  List.Forall₂ (fun m n => m.1 = n.1 ∧
    ∀ name ∈ Credentials.fieldNames, m.2.get? name = n.2.get? name) own other

/-- A set has the registries of a source in the same order, and for each of them the credential
    fields of its entry and no others. -/
def Recovers (own : Members Json) (set : CredentialSet) : Prop :=
  List.Forall₂ (fun m c => m.1 = c.1 ∧
    ∀ name, c.2.toJson.get? name =
      if name ∈ Credentials.fieldNames then m.2.get? name else none) own set

/-- The checked credentials of a set are those that the caller gave. -/
theorem recovers_map_credentialsOf {own : Members Json} (h : IsCredentialSet own) :
    Recovers own (own.map fun m => (m.1, credentialsOf m.2)) := by
  rw [Recovers, List.forall₂_map_right_iff, List.forall₂_same]
  exact fun m hm => ⟨rfl, get?_toJson_credentialsOf (h.entries m hm)⟩

/-- Encoding gives a header value that decodes to the checked credentials. -/
theorem encode_of_isCredentialSet {own : Members Json} (h : IsCredentialSet own) :
    encode (Source.ofJson (.object own)) =
      .ok (headerOf (own.map fun m => (m.1, credentialsOf m.2))) ∧
    decode (headerOf (own.map fun m => (m.1, credentialsOf m.2))) =
      .ok (own.map fun m => (m.1, credentialsOf m.2)) := by
  constructor
  · rw [encode, check_of_isCredentialEntry h.entries, Members.erase_of_forall_ne h.unreserved]
    rfl
  · apply decode_headerOf
    · exact (Members.isListed_map credentialsOf).2 h.listed
    · intro c hc
      obtain ⟨m, hm, rfl⟩ := List.mem_map.1 hc
      exact h.unreserved m hm

/-- Sources that the same set recovers have the same credentials. -/
theorem sameCredentials_of_recovers {own other : Members Json} {set : CredentialSet}
    (hown : Recovers own set) (hother : Recovers other set) : SameCredentials own other := by
  induction hown generalizing other with
  | nil =>
    cases hother
    exact .nil
  | cons hm _ ih =>
    cases hother with
    | cons hn hrest =>
      refine .cons ⟨hm.1.trans hn.1.symm, fun name hname => ?_⟩ (ih hrest)
      have hvalue := (hm.2 name).symm.trans (hn.2 name)
      rwa [if_pos hname, if_pos hname] at hvalue

/-- **Header round trip.** Every credential set is encoded, and its header value decodes to the same
    registries in the same order with the same credential fields.  Hence two sets with the same
    header value have the same credentials. -/
theorem decode_encode_recovers (own : Members Json) (h : IsCredentialSet own) :
    (∃ header set, encode (Source.ofJson (.object own)) = .ok header ∧
      decode header = .ok set ∧ Recovers own set) ∧
    ∀ other, IsCredentialSet other →
      encode (Source.ofJson (.object own)) = encode (Source.ofJson (.object other)) →
      SameCredentials own other := by
  obtain ⟨hencode, hdecode⟩ := encode_of_isCredentialSet h
  refine ⟨⟨_, _, hencode, hdecode, recovers_map_credentialsOf h⟩, fun other hother heq => ?_⟩
  obtain ⟨hencode', hdecode'⟩ := encode_of_isCredentialSet hother
  rw [hencode, hencode', Except.ok.injEq] at heq
  -- one header value decodes to one set, which then recovers both sources
  have hset : own.map (fun m => (m.1, credentialsOf m.2)) =
      other.map fun m => (m.1, credentialsOf m.2) := by
    rw [heq, hdecode', Except.ok.injEq] at hdecode
    exact hdecode.symm
  have hrecovers := recovers_map_credentialsOf hother
  rw [← hset] at hrecovers
  exact sameCredentials_of_recovers (recovers_map_credentialsOf h) hrecovers

/-- Two registries, one of them under an index name; fields are texts, null and left out, and one
    member is no field. -/
def twoRegistries : Members Json :=
  [("10", .object [("username", .string "a\"b"), ("password", .string "\n😀"), ("note", .bool true)]),
    ("registry.example/x", .object [("email", .null), ("identitytoken", .string "")])]

/-- The two registries are sent and read back. -/
theorem twoRegistries_recovered :
    IsCredentialSet twoRegistries ∧
      ∃ header set, encode (Source.ofJson (.object twoRegistries)) = .ok header ∧
        decode header = .ok set ∧ Recovers twoRegistries set := by
  have hset : IsCredentialSet twoRegistries := by
    refine ⟨by decide, by decide, ?_⟩
    simp [twoRegistries, IsCredentialEntry, Credentials.fieldNames, Json.kind, Json.get?,
      Json.members?, Members.get?, List.lookup_cons, IsFieldValue]
  exact ⟨hset, (decode_encode_recovers twoRegistries hset).1⟩

end ImageBuild.Registry
