import ImageBuild.Registry.Source
import ImageBuild.Proofs.Json.RoundTrip

namespace ImageBuild.Registry

/-!
# Credential sets — as objects, and back

Credentials as an object have the value of each field under its name and nothing else
(`Credentials.get?_toJson`), so that reading the object gives the credentials again
(`credentialsOf_toJson`).  A source of well-formed entries passes its check with exactly one
registry for each of them but the reserved name, in their order (`check_of_isCredentialEntry`).  The
check has nothing to say about an object exactly when its entries are well-formed
(`issues_object_eq_nil_iff`).
-/

/-! ### Fields -/

/-- The field that a value stands for is the one it was made from. -/
@[simp] theorem fieldOf_toJson? (f : Field) : fieldOf f.toJson? = f := by
  cases f <;> rfl

/-- A value is that of a credential field. -/
def IsFieldValue (v : Json) : Prop := v = .null ∨ ∃ s, v = .string s

/-- The value of a field is null or a text. -/
theorem isFieldValue_of_toJson? {f : Field} {v : Json} (h : f.toJson? = some v) :
    IsFieldValue v := by
  cases f with
  | absent => simp [Field.toJson?] at h
  | null => exact Or.inl (Option.some.inj h).symm
  | text s => exact Or.inr ⟨s, (Option.some.inj h).symm⟩

/-- The field that a value of the right form stands for has this value. -/
theorem toJson?_fieldOf {v : Option Json} (h : ∀ value, v = some value → IsFieldValue value) :
    (fieldOf v).toJson? = v := by
  cases v with
  | none => rfl
  | some value => rcases h value rfl with rfl | ⟨s, rfl⟩ <;> rfl

/-- Nothing is wrong with a value exactly when it has the right form. -/
theorem fieldProblem?_eq_none_iff (v : Json) : fieldProblem? v = none ↔ IsFieldValue v := by
  cases v <;> simp [fieldProblem?, IsFieldValue]

/-! ### Credentials as objects -/

/-- The members that some named fields make. -/
def fieldMembers (pairs : List (String × Field)) : Members Json :=
  pairs.filterMap fun (name, field) => field.toJson?.map fun value => (name, value)

/-- The names of the members are names of the fields, in their order. -/
theorem names_fieldMembers_sublist (pairs : List (String × Field)) :
    List.Sublist (fieldMembers pairs).names (pairs.map (·.1)) :=
  Members.names_made_sublist pairs

/-- The member under a name is the value of the field of this name. -/
theorem get?_fieldMembers {pairs : List (String × Field)} (hnodup : (pairs.map (·.1)).Nodup)
    (name : String) :
    (fieldMembers pairs).get? name = (pairs.lookup name).bind Field.toJson? :=
  Members.get?_made hnodup name

namespace Credentials

/-- Credentials as an object are their fields under the names of these. -/
theorem toJson_eq (c : Credentials) :
    c.toJson = .object (fieldMembers (fieldNames.zip c.fields)) := rfl

/-- The names of the fields, in the order of the fields. -/
theorem names_zip_fields (c : Credentials) :
    (fieldNames.zip c.fields).map (·.1) = fieldNames := rfl

/-- The names of the fields are listed in their order. -/
theorem pairwise_fieldNames :
    fieldNames.Pairwise fun a b => Members.precedes a b = true := by decide

/-- The object has under each name the value of the field of this name. -/
theorem get?_toJson (c : Credentials) (name : String) :
    c.toJson.get? name = ((fieldNames.zip c.fields).lookup name).bind Field.toJson? := by
  have hnodup : ((fieldNames.zip c.fields).map (·.1)).Nodup := by
    rw [names_zip_fields]
    decide
  exact get?_fieldMembers hnodup name

/-- The object has no other members than the fields. -/
theorem get?_toJson_of_notMem (c : Credentials) {name : String} (h : name ∉ fieldNames) :
    c.toJson.get? name = none := by
  have hlookup : (fieldNames.zip c.fields).lookup name = none := by
    rw [List.lookup_eq_none_iff]
    intro p hp
    have hmem : p.1 ∈ fieldNames := List.mem_map_of_mem hp
    simpa using fun heq : name = p.1 => h (heq ▸ hmem)
  rw [get?_toJson, hlookup, Option.bind_none]

/-- The object holds texts and nulls, listed in order. -/
theorem isTextual_toJson (c : Credentials) : c.toJson.IsTextual := by
  rw [toJson_eq]
  refine .object ?_ ?_
  · have hnames := names_fieldMembers_sublist (fieldNames.zip c.fields)
    rw [names_zip_fields] at hnames
    exact List.pairwise_map.1 (pairwise_fieldNames.sublist hnames)
  · intro m hm
    obtain ⟨p, -, hp⟩ := List.mem_filterMap.1 hm
    obtain ⟨value, hvalue, rfl⟩ := Option.map_eq_some_iff.1 hp
    rcases isFieldValue_of_toJson? hvalue with rfl | ⟨s, rfl⟩
    · exact .null
    · exact .string s

end Credentials

/-- Reading credentials from their object gives them again. -/
theorem credentialsOf_toJson (c : Credentials) : credentialsOf c.toJson = c := by
  simp only [credentialsOf, Credentials.get?_toJson]
  simp [Credentials.fieldNames, Credentials.fields, List.lookup_cons]

/-! ### Entries -/

/-- An entry is an object whose credential fields are null or texts. -/
def IsCredentialEntry (entry : Json) : Prop :=
  entry.kind = .object ∧
    ∀ name ∈ Credentials.fieldNames, ∀ v, entry.get? name = some v → IsFieldValue v

/-- Nothing is wrong with an entry exactly when it is well formed. -/
theorem entryIssues_eq_nil_iff (registry : String) (entry : Json) :
    entryIssues registry (some entry) = [] ↔ IsCredentialEntry entry := by
  cases entry with
  | object members =>
    rw [entryIssues, List.filterMap_eq_nil_iff]
    constructor
    · intro h
      refine ⟨rfl, fun name hname v hv => (fieldProblem?_eq_none_iff v).1 ?_⟩
      have hv : Members.get? members name = some v := hv
      simpa [hv] using h name hname
    · intro h name hname
      cases hvalue : Members.get? members name with
      | none => rfl
      | some v =>
        have hproblem := (fieldProblem?_eq_none_iff v).2 (h.2 name hname v hvalue)
        simp [hproblem]
  | _ => simp [entryIssues, IsCredentialEntry, Json.kind]

/-- Credentials read from a well-formed entry have its fields and nothing else. -/
theorem get?_toJson_credentialsOf {entry : Json} (h : IsCredentialEntry entry) (name : String) :
    (credentialsOf entry).toJson.get? name =
      if name ∈ Credentials.fieldNames then entry.get? name else none := by
  by_cases hname : name ∈ Credentials.fieldNames
  · rw [if_pos hname, Credentials.get?_toJson]
    have hvalue := toJson?_fieldOf (h.2 name hname)
    simp only [Credentials.fieldNames, List.mem_cons, List.not_mem_nil, or_false] at hname
    rcases hname with rfl | rfl | rfl | rfl | rfl
    all_goals simpa [Credentials.fieldNames, Credentials.fields, credentialsOf, List.lookup_cons]
      using hvalue
  · rw [if_neg hname, Credentials.get?_toJson_of_notMem _ hname]

/-- The entry that credentials make is well formed. -/
theorem isCredentialEntry_toJson (c : Credentials) : IsCredentialEntry c.toJson := by
  refine ⟨rfl, fun name _ v hv => ?_⟩
  rw [Credentials.get?_toJson, Option.bind_eq_some_iff] at hv
  obtain ⟨f, -, hf⟩ := hv
  exact isFieldValue_of_toJson? hf

/-- The issues of an object are those of its entries. -/
theorem issues_object (own : Members Json) :
    (Source.ofJson (.object own)).issues = own.flatMap fun m => entryIssues m.1 (some m.2) := by
  simp [Source.ofJson, Source.issues, Fallback.members, List.flatMap_map]

/-- Nothing is wrong with an object exactly when all its entries are well formed. -/
theorem issues_object_eq_nil_iff (own : Members Json) :
    (Source.ofJson (.object own)).issues = [] ↔ ∀ m ∈ own, IsCredentialEntry m.2 := by
  simp only [issues_object, List.flatMap_eq_nil_iff, entryIssues_eq_nil_iff]

/-- The set that entries stand for has the credentials of every entry in their order, but for one
    under the reserved name. -/
theorem credentialSetOf_map (own : Members Json) :
    credentialSetOf (own.map fun m => (m.1, some m.2)) =
      (own.erase Members.reservedName).map fun m => (m.1, credentialsOf m.2) := by
  rw [credentialSetOf, Members.erase, Members.erase, List.filter_map, List.filterMap_map,
    ← List.filterMap_eq_map]
  rfl

/-- **Checking.** A source of well-formed entries passes, with the credentials of every entry in
    the order of the source, but for one under the reserved name. -/
theorem check_of_isCredentialEntry {own : Members Json}
    (hentries : ∀ m ∈ own, IsCredentialEntry m.2) :
    (Source.ofJson (.object own)).check =
      .ok ((own.erase Members.reservedName).map fun m => (m.1, credentialsOf m.2)) := by
  have hset : (Source.ofJson (.object own)).credentialSet =
      (own.erase Members.reservedName).map fun m => (m.1, credentialsOf m.2) :=
    credentialSetOf_map own
  rw [Source.check, (issues_object_eq_nil_iff own).2 hentries, hset]

/-! ### Assigning entries -/

/-- Assigning under a name that is not reserved gives the source a registry. -/
theorem Source.assign_of_ne {registry : String} (h : registry ≠ Members.reservedName)
    (own : Members (Option Json)) (fallback : Fallback) (entry : Option Json) :
    Source.assign own fallback registry entry = (own.insert registry entry, fallback) := by
  simp [Source.assign, h]

/-- Assigning under names that are not reserved inserts one after the other. -/
theorem Source.foldl_assign {entries : List (String × Option Json)}
    (hnames : ∀ m ∈ entries, m.1 ≠ Members.reservedName) (own : Members (Option Json))
    (fallback : Fallback) :
    entries.foldl (fun s m => Source.assign s.1 s.2 m.1 m.2) (own, fallback) =
      (entries.foldl (fun own m => own.insert m.1 m.2) own, fallback) := by
  induction entries generalizing own with
  | nil => rfl
  | cons m entries ih =>
    have hm : m.1 ≠ Members.reservedName := hnames m (by simp)
    have hrest : ∀ n ∈ entries, n.1 ≠ Members.reservedName :=
      fun n hn => hnames n (List.mem_cons_of_mem _ hn)
    rw [List.foldl_cons, List.foldl_cons, Source.assign_of_ne hm, ih hrest]

/-- Registries that are listed in order make a source of themselves. -/
theorem Source.ofEntries_of_isListed {entries : Members (Option Json)}
    (hlisted : entries.IsListed) (hnames : ∀ m ∈ entries, m.1 ≠ Members.reservedName) :
    Source.ofEntries entries = .entries entries .usual := by
  rw [Source.ofEntries]
  simp only [Source.foldl_assign hnames]
  exact congrArg (Source.entries · .usual) (Members.ofPairs_of_isListed hlisted)

end ImageBuild.Registry
