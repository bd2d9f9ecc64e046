import ImageBuild.Proofs.Registry.Attached

namespace ImageBuild.Registry

/-!
# Credentials from pairs — what a list of registries and credentials sends

Assigning the pairs of a list one after the other lists them (`ofEntries_some`): each registry
stands where it first occurred, with the credentials of its last occurrence, and nothing of the
earlier ones is left.  The header value of such a source decodes to this listing
(`last_credentials_arrive`).
-/

/-- The last occurrence of a registry in a list gives these credentials. -/
def IsLast (entries : List (String × Json)) (registry : String) (auth : Json) : Prop :=
  ∃ before after, entries = before ++ (registry, auth) :: after ∧ ∀ e ∈ after, e.1 ≠ registry

/-- What is found from the end is the last occurrence. -/
theorem isLast_of_lookup_reverse {entries : List (String × Json)} {registry : String} {auth : Json}
    (h : entries.reverse.lookup registry = some auth) : IsLast entries registry auth := by
  obtain ⟨front, back, hsplit, hfront⟩ := List.lookup_eq_some_iff.1 h
  refine ⟨back.reverse, front.reverse, ?_, fun e he heq => ?_⟩
  · rw [← List.reverse_reverse entries, hsplit]
    simp
  · have hne := hfront e (List.mem_reverse.1 he)
    simp [heq] at hne

/-- A member of a listing has the value of the last pair of its name. -/
theorem isLast_of_mem_ofPairs {entries : List (String × Json)} {m : String × Json}
    (hm : m ∈ Members.ofPairs entries) : IsLast entries m.1 m.2 := by
  have hget := (Members.isListed_ofPairs entries).get?_of_mem hm
  rw [Members.get?_ofPairs] at hget
  exact isLast_of_lookup_reverse hget

/-- The last occurrence is one of the list. -/
theorem IsLast.mem {entries : List (String × Json)} {registry : String} {auth : Json}
    (h : IsLast entries registry auth) : (registry, auth) ∈ entries := by
  obtain ⟨before, after, rfl, -⟩ := h
  simp

/-- A list of registries, none of them of the reserved name, gives the source of its listing. -/
theorem ofEntries_some {entries : List (String × Json)}
    (hnames : ∀ e ∈ entries, e.1 ≠ Members.reservedName) :
    Source.ofEntries (entries.map fun e => (e.1, some e.2)) =
      Source.ofJson (.object (Members.ofPairs entries)) := by
  have hnames' : ∀ m ∈ entries.map fun e => (e.1, some e.2), m.1 ≠ Members.reservedName := by
    intro m hm
    obtain ⟨e, he, rfl⟩ := List.mem_map.1 hm
    exact hnames e he
  rw [Source.ofEntries]
  simp only [Source.foldl_assign hnames']
  exact congrArg (Source.entries · .usual) (Members.ofPairs_map some entries)

/-- The listing of valid credentials is a credential set. -/
theorem isCredentialSet_ofPairs {entries : List (String × Json)}
    (hnames : ∀ e ∈ entries, e.1 ≠ Members.reservedName)
    (hentries : ∀ e ∈ entries, IsCredentialEntry e.2) :
    IsCredentialSet (Members.ofPairs entries) where
  listed := Members.isListed_ofPairs entries
  unreserved m hm := hnames m (isLast_of_mem_ofPairs hm).mem
  entries m hm := hentries m (isLast_of_mem_ofPairs hm).mem

/-- **The last credentials arrive.**  Attaching the credentials of a list of registries to headers
    that are empty sets a header exactly when the list is not empty, and its value decodes to one
    entry for each registry, in the order in which the registries first occur in the list, each with
    the credential fields of its last occurrence and no others. -/
theorem last_credentials_arrive (entries : List (String × Json))
    (hnames : ∀ e ∈ entries, e.1 ≠ Members.reservedName ∧ Members.index? e.1 = none)
    (hentries : ∀ e ∈ entries, IsCredentialEntry e.2) :
    ∃ headers, attach [] (some (.ofEntries (entries.map fun e => (e.1, some e.2)))) = .ok headers ∧
      (headers.get? headerName = none ↔ entries = []) ∧
      ∀ value, headers.get? headerName = some value → ∃ text set,
        value = .string text ∧ decode text = .ok set ∧
        Members.names set = (entries.map (·.1)).eraseDups ∧
        ∀ c ∈ set, ∃ auth, IsLast entries c.1 auth ∧
          ∀ name, c.2.toJson.get? name =
            if name ∈ Credentials.fieldNames then auth.get? name else none := by
  have hreserved : ∀ e ∈ entries, e.1 ≠ Members.reservedName := fun e he => (hnames e he).1
  rw [ofEntries_some hreserved]
  by_cases hempty : entries = []
  · subst hempty
    exact ⟨[], rfl, by simp, fun value hvalue => by simp at hvalue⟩
  · -- the listing is what the header value decodes to, so that all is said about its members
    have hset := isCredentialSet_ofPairs hreserved hentries
    obtain ⟨hencode, hdecode⟩ := encode_of_isCredentialSet hset
    have hsome : (Source.ofJson (.object (Members.ofPairs entries))).isEmpty = false := by
      rw [Source.ofJson, Source.isEmpty, List.isEmpty_eq_false_iff, Ne, List.map_eq_nil_iff,
        Members.ofPairs_eq_nil_iff]
      exact hempty
    refine ⟨_, attach_of_encode hsome hencode [], by simp [hempty, Members.get?_insert],
      fun value hvalue => ?_⟩
    rw [Members.get?_insert, if_pos rfl, Option.some.injEq] at hvalue
    refine ⟨_, _, hvalue.symm, hdecode, ?_, fun c hc => ?_⟩
    · rw [← Members.names_ofPairs fun e he => (hnames e he).2]
      simp [Members.names]
    · obtain ⟨m, hm, rfl⟩ := List.mem_map.1 hc
      exact ⟨m.2, isLast_of_mem_ofPairs hm, get?_toJson_credentialsOf (hset.entries m hm)⟩

/-- Two registries, the first of them listed again with other fields. -/
def repeatedRegistry : List (String × Json) :=
  [("b.example", .object [("username", .string "old"), ("email", .null)]),
    ("a.example", .object [("identitytoken", .string "t")]),
    ("b.example", .object [("password", .string "new")])]

/-- The registry that is listed again is sent first, with nothing but its last fields. -/
theorem repeated_registry_arrives :
    (∀ e ∈ repeatedRegistry, e.1 ≠ Members.reservedName ∧ Members.index? e.1 = none) ∧
      (∀ e ∈ repeatedRegistry, IsCredentialEntry e.2) ∧
      ∃ headers text set,
        attach [] (some (.ofEntries (repeatedRegistry.map fun e => (e.1, some e.2)))) = .ok headers ∧
        headers.get? headerName = some (.string text) ∧ decode text = .ok set ∧
        Members.names set = ["b.example", "a.example"] := by
  have hnames : ∀ e ∈ repeatedRegistry,
      e.1 ≠ Members.reservedName ∧ Members.index? e.1 = none := by decide
  have hentries : ∀ e ∈ repeatedRegistry, IsCredentialEntry e.2 := by
    simp [repeatedRegistry, IsCredentialEntry, Credentials.fieldNames, Json.kind, Json.get?,
      Json.members?, Members.get?, List.lookup_cons, IsFieldValue]
  obtain ⟨headers, hattach, hnone, hvalue⟩ :=
    last_credentials_arrive repeatedRegistry hnames hentries
  obtain ⟨value, hget⟩ := Option.ne_none_iff_exists'.1 (mt hnone.1 (by decide))
  obtain ⟨text, set, rfl, hdecode, horder, -⟩ := hvalue value hget
  exact ⟨hnames, hentries, headers, text, set, hattach, hget, hdecode, horder.trans (by decide)⟩

end ImageBuild.Registry
