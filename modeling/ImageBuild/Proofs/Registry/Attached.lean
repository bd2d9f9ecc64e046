import ImageBuild.Proofs.Registry.HeaderRoundTrip

namespace ImageBuild.Registry

/-!
# Attached credentials — what headers say about the source that they were made from

Whatever credentials are given as, encoding them succeeds only when every entry is an object of
credential fields, so that there is a set of well-formed entries behind every header value
(`exists_eq_ofMembers`).  Hence headers that credentials were attached to either have no header for
them, because there is no registry, or one that decodes to exactly these registries and their fields
(`carries_of_attach`).
-/

/-- The source of the members of an object, with what it falls back on. -/
def Source.ofMembers (own : Members Json) (fallback : Fallback) : Source :=
  .entries (own.map fun m => (m.1, some m.2)) fallback

/-- The registries of a source are listed in order, and none of them has the reserved name. -/
structure Source.HasPlainNames (source : Source) : Prop where
  listed : source.registries.Pairwise fun a b => Members.precedes a b = true
  unreserved : Members.reservedName ∉ source.registries

/-- Headers carry the credentials of a source: they have a header for these exactly when the source
    lists a registry, and its value decodes to the registries of the source in their order, with the
    credential fields of their entries and no others. -/
structure Carries (headers : Headers) (source : Option Source) : Prop where
  eq_none_iff : headers.get? headerName = none ↔ ∀ given, source = some given → given.registries = []
  decoded : ∀ value, headers.get? headerName = some value →
    ∃ text own fallback set, value = .string text ∧ source = some (.ofMembers own fallback) ∧
      decode text = .ok set ∧ Recovers own set

/-- Headers carry what other headers with the same header for credentials do. -/
theorem Carries.congr {headers headers' : Headers} {source : Option Source}
    (h : Carries headers source) (heq : headers'.get? headerName = headers.get? headerName) :
    Carries headers' source :=
  ⟨heq ▸ h.eq_none_iff, heq ▸ h.decoded⟩

/-! ### Sources without issues -/

/-- The registries of a source of members are their names. -/
@[simp] theorem Source.registries_ofMembers (own : Members Json) (fallback : Fallback) :
    (Source.ofMembers own fallback).registries = own.names := by
  simp [ofMembers, registries, Members.names, Function.comp_def]

/-- An entry that nothing is wrong with is given and well formed. -/
theorem isCredentialEntry_of_entryIssues {registry : String} {entry : Option Json}
    (h : entryIssues registry entry = []) : ∃ value, entry = some value ∧ IsCredentialEntry value := by
  cases entry with
  | none => simp [entryIssues] at h
  | some value => exact ⟨value, rfl, (entryIssues_eq_nil_iff registry value).1 h⟩

/-- A source that nothing is wrong with is one of well-formed entries. -/
theorem exists_eq_ofMembers {source : Source} (h : source.issues = []) :
    ∃ own fallback, source = .ofMembers own fallback ∧ ∀ m ∈ own, IsCredentialEntry m.2 := by
  cases source with
  | other value => simp [Source.issues] at h
  | entries given fallback =>
    have hgiven : ∀ m ∈ given, ∃ value, m.2 = some value ∧ IsCredentialEntry value := by
      intro m hm
      rw [Source.issues, List.flatMap_eq_nil_iff] at h
      exact isCredentialEntry_of_entryIssues (h m (List.mem_append_left _ hm))
    let own : Members Json := given.map fun m => (m.1, m.2.getD .null)
    refine ⟨own, fallback, ?_, fun n hn => ?_⟩
    · have hself : ∀ m ∈ given, (m.1, some (m.2.getD .null)) = m := by
        intro m hm
        obtain ⟨value, hvalue, -⟩ := hgiven m hm
        rw [hvalue, Option.getD_some, ← hvalue]
      rw [Source.ofMembers, List.map_map, Function.comp_def, List.map_congr_left hself,
        List.map_id']
    · obtain ⟨m, hm, rfl⟩ := List.mem_map.1 hn
      obtain ⟨value, hvalue, hentry⟩ := hgiven m hm
      simpa [hvalue] using hentry

/-! ### Attaching -/

/-- A header value that credentials are encoded in decodes to the credentials of their entries. -/
theorem decode_of_encode {source : Source} (hnames : source.HasPlainNames) {text : String}
    (h : encode source = .ok text) :
    ∃ own fallback set, source = .ofMembers own fallback ∧ decode text = .ok set ∧
      Recovers own set := by
  have hissues : source.issues = [] := by
    by_contra hne
    obtain ⟨first, rest, hfound⟩ := List.exists_cons_of_ne_nil hne
    rw [encode, Source.check, hfound] at h
    cases h
  obtain ⟨own, fallback, rfl, hentries⟩ := exists_eq_ofMembers hissues
  obtain ⟨hlisted, hunreserved⟩ := hnames
  rw [Source.registries_ofMembers] at hlisted hunreserved
  have hset : IsCredentialSet own :=
    { listed := Members.isListed_iff_names.2 hlisted
      unreserved := fun m hm heq => hunreserved (heq ▸ List.mem_map_of_mem hm)
      entries := hentries }
  have hread : (Source.ofMembers own fallback).credentialSet =
      own.map fun m => (m.1, credentialsOf m.2) := by
    rw [Source.ofMembers, Source.credentialSet, credentialSetOf_map,
      Members.erase_of_forall_ne hset.unreserved]
  rw [encode, Source.check, hissues, hread] at h
  cases h
  exact ⟨own, fallback, _, rfl, (encode_of_isCredentialSet hset).2,
    recovers_map_credentialsOf hset⟩

/-- Credentials are attached by doing nothing where there is nothing to send, and else by setting the
    value that they are encoded in. -/
theorem attach_eq_ok {headers attached : Headers} {source : Option Source}
    (h : attach headers source = .ok attached) :
    ((∀ given, source = some given → given.isEmpty = true) ∧ attached = headers) ∨
      ∃ given text, source = some given ∧ given.isEmpty = false ∧ encode given = .ok text ∧
        attached = headers.insert headerName (.string text) := by
  cases source with
  | none =>
    cases h
    exact .inl ⟨by simp, rfl⟩
  | some given =>
    rw [attach] at h
    split at h
    · rename_i hempty
      cases h
      exact .inl ⟨fun _ heq => Option.some.inj heq ▸ hempty, rfl⟩
    · rename_i hsome
      cases hencode : encode given with
      | error e =>
        rw [hencode] at h
        cases h
      | ok text =>
        rw [hencode] at h
        cases h
        exact .inr ⟨given, text, rfl, by simpa using hsome, hencode, rfl⟩

/-- Credentials that there are and that can be encoded are attached. -/
theorem attach_of_encode {source : Source} {text : String} (hsome : source.isEmpty = false)
    (h : encode source = .ok text) (headers : Headers) :
    attach headers (some source) = .ok (headers.insert headerName (.string text)) := by
  rw [attach, if_neg (by simp [hsome]), h]
  rfl

/-- A source that has nothing to send lists no registry. -/
theorem Source.registries_of_isEmpty {source : Source} (h : source.isEmpty = true) :
    source.registries = [] := by
  cases source with
  | other value => rfl
  | entries own fallback =>
    rw [isEmpty, List.isEmpty_iff] at h
    simp [registries, h, Members.names]

/-- A source of members with something to send lists a registry. -/
theorem Source.registries_ne_nil {own : Members Json} {fallback : Fallback}
    (h : (Source.ofMembers own fallback).isEmpty = false) :
    (Source.ofMembers own fallback).registries ≠ [] := by
  cases own with
  | nil => cases h
  | cons m rest => simp [Members.names]

/-- Headers that had no credentials carry those that are attached to them. -/
theorem carries_of_attach {headers attached : Headers} (hnone : headers.get? headerName = none)
    {source : Option Source} (hnames : ∀ given, source = some given → given.HasPlainNames)
    (h : attach headers source = .ok attached) : Carries attached source := by
  rcases attach_eq_ok h with ⟨hempty, rfl⟩ | ⟨given, text, rfl, hsome, hencode, rfl⟩
  · refine ⟨⟨fun _ given hgiven => ?_, fun _ => hnone⟩, fun value hvalue => ?_⟩
    · exact Source.registries_of_isEmpty (hempty given hgiven)
    · rw [hnone] at hvalue
      cases hvalue
  · obtain ⟨own, fallback, set, rfl, hdecode, hrecovers⟩ :=
      decode_of_encode (hnames given rfl) hencode
    refine ⟨⟨fun hget => ?_, fun hregistries => ?_⟩, fun value hvalue => ?_⟩
    · simp [Members.get?_insert] at hget
    · exact absurd (hregistries _ rfl) (Source.registries_ne_nil hsome)
    · simp only [Members.get?_insert, if_true, Option.some.injEq] at hvalue
      exact ⟨text, own, fallback, set, hvalue.symm, rfl, hdecode, hrecovers⟩

/-- Attaching credentials changes no other header. -/
theorem get?_of_attach {headers attached : Headers} {source : Option Source}
    (h : attach headers source = .ok attached) {name : String} (hname : name ≠ headerName) :
    attached.get? name = headers.get? name := by
  rcases attach_eq_ok h with ⟨-, rfl⟩ | ⟨given, text, -, -, -, rfl⟩
  · rfl
  · rw [Members.get?_insert, if_neg hname]

end ImageBuild.Registry
