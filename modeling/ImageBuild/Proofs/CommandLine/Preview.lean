import ImageBuild.CommandLine.AuthHeader
import ImageBuild.Proofs.Registry.HeaderRoundTrip
import ImageBuild.Proofs.Text.Truncate

namespace ImageBuild.CommandLine

open Registry (Credentials CredentialSet IsCredentialEntry IsCredentialSet)

/-!
# The preview of the registry header — it shows no credential

The preview is the first twelve digits of the header value, or all of a value that has no more, so
that it stands for nine bytes of the printed set.  The value of a field is printed behind the name of
its registry and its own name, and these take more than nine bytes even where the registry has no
name at all.

* `names_fieldMembers_credentialsOf` — the fields that are printed are those that are present.
* `beginAlike_printMembers` — sets with the same registries and the same fields begin alike in print,
  as far as the preview goes.
* `preview_of_front` — the preview depends on these characters alone.
* `preview_eq` — so it is the same for all credentials in the same fields.
-/

/-- Two lists of registries have the same registries in the same order, and the entries of a registry
    have the same credential fields present, whatever their values are. -/
def SameFields (own other : Members Json) : Prop :=
  List.Forall₂ (fun m n => m.1 = n.1 ∧ ∀ name ∈ Credentials.fieldNames,
    (m.2.get? name).isSome = (n.2.get? name).isSome) own other

/-! ### Texts that begin alike -/

/-- Texts that are equal, or agree for more than `n` characters. -/
inductive BeginAlike (n : Nat) : List Char → List Char → Prop
  | same (s : List Char) : BeginAlike n s s
  | front {front : List Char} (hlong : n < front.length) (rest rest' : List Char) :
    BeginAlike n (front ++ rest) (front ++ rest')

namespace BeginAlike

variable {n : Nat} {s s' : List Char}

/-- They do so behind the same text. -/
theorem append_left (before : List Char) (h : BeginAlike n s s') :
    BeginAlike n (before ++ s) (before ++ s') := by
  cases h with
  | same => exact .same _
  | front hlong rest rest' =>
    rw [← List.append_assoc, ← List.append_assoc]
    exact .front (by rw [List.length_append]; omega) rest rest'

/-- Two such texts in a row begin alike. -/
theorem append {t t' : List Char} (h : BeginAlike n s s') (ht : BeginAlike n t t') :
    BeginAlike n (s ++ t) (s' ++ t') := by
  cases h with
  | same => exact ht.append_left s
  | front hlong rest rest' =>
    rw [List.append_assoc, List.append_assoc]
    exact .front hlong _ _

end BeginAlike

/-! ### Credentials in print -/

/-- The fields that are printed are those that are present. -/
theorem names_fieldMembers_credentialsOf {entry : Json} (h : IsCredentialEntry entry) :
    (Registry.fieldMembers
      (Credentials.fieldNames.zip (Registry.credentialsOf entry).fields)).names =
        Credentials.fieldNames.filter fun name => (entry.get? name).isSome := by
  have hzip : Credentials.fieldNames.zip (Registry.credentialsOf entry).fields =
      Credentials.fieldNames.map fun name => (name, Registry.fieldOf (entry.get? name)) := rfl
  rw [Members.names, Registry.fieldMembers, hzip, List.filterMap_map, List.map_filterMap,
    ← List.filterMap_eq_filter]
  apply List.filterMap_congr
  intro name hname
  simp only [Function.comp_apply, Registry.toJson?_fieldOf (h.2 name hname)]
  cases hvalue : entry.get? name <;> simp [Option.guard, hvalue]

/-- Members begin with the name of the first one. -/
theorem exists_printMembers_cons (name : String) (value : Json) (members : Members Json) :
    ∃ rest, Json.printMembers ((name, value) :: members) =
      Json.quote name.toList ++ ':' :: rest := by
  cases members with
  | nil => exact ⟨_, by rw [Json.printMembers]⟩
  | cons m members =>
    exact ⟨_, by rw [Json.printMembers_cons_cons, List.append_assoc, List.cons_append]⟩

/-- Registries of one name whose entries have the same fields begin alike: what is printed before the
    value of a field is long enough. -/
theorem beginAlike_entry (registry : String) {members members' : Members Json}
    (hnames : members.names = members'.names) (hfields : members.names ⊆ Credentials.fieldNames) :
    BeginAlike 9 (Json.quote registry.toList ++ ':' :: Json.print (.object members))
      (Json.quote registry.toList ++ ':' :: Json.print (.object members')) := by
  match members, members', hnames, hfields with
  | [], [], _, _ => exact .same _
  | (name, value) :: members, (name', value') :: members', hnames, hfields =>
    obtain rfl : name = name' := (List.cons.inj hnames).1
    obtain ⟨rest, hrest⟩ := exists_printMembers_cons name value members
    obtain ⟨rest', hrest'⟩ := exists_printMembers_cons name value' members'
    have hregistry : 2 ≤ (Json.quote registry.toList).length := by
      simp [Json.quote]
    -- `email` is the shortest name of a field
    have hname : 7 ≤ (Json.quote name.toList).length := by
      have hall : ∀ field ∈ Credentials.fieldNames, 7 ≤ (Json.quote field.toList).length := by
        decide
      exact hall name (hfields List.mem_cons_self)
    have hparted : ∀ s, Json.quote registry.toList ++ ':' :: '{' :: (Json.quote name.toList ++
        ':' :: s ++ ['}']) = (Json.quote registry.toList ++ ':' :: '{' ::
          (Json.quote name.toList ++ [':'])) ++ (s ++ ['}']) := by
      simp
    rw [Json.print, Json.print, hrest, hrest', List.cons_append, List.cons_append, hparted, hparted]
    refine .front ?_ _ _
    simp only [List.length_append, List.length_cons, List.length_nil]
    omega

/-- Credentials that have the same fields. -/
def SameNames (c c' : Credentials) : Prop :=
  (Registry.fieldMembers (Credentials.fieldNames.zip c.fields)).names =
    (Registry.fieldMembers (Credentials.fieldNames.zip c'.fields)).names

/-- Sets with the same registries and the same fields begin alike in print. -/
theorem beginAlike_printMembers {set set' : CredentialSet}
    (h : List.Forall₂ (fun c c' => c.1 = c'.1 ∧ SameNames c.2 c'.2) set set') :
    BeginAlike 9 (Json.printMembers (set.map fun c => (c.1, c.2.toJson)))
      (Json.printMembers (set'.map fun c => (c.1, c.2.toJson))) := by
  induction h with
  | nil => exact .same _
  | @cons c c' set set' hc hset ih =>
    obtain ⟨registry, c⟩ := c
    obtain ⟨registry', c'⟩ := c'
    obtain ⟨rfl, hnames⟩ : registry = registry' ∧ SameNames c c' := hc
    have hentry : BeginAlike 9 (Json.quote registry.toList ++ ':' :: Json.print c.toJson)
        (Json.quote registry.toList ++ ':' :: Json.print c'.toJson) := by
      refine beginAlike_entry registry hnames ?_
      exact (Registry.names_fieldMembers_sublist _).subset
    cases hset with
    | nil => simpa [Json.printMembers] using hentry
    | @cons d d' set set' hd hset =>
      have hmore := hentry.append (ih.append_left [','])
      rw [List.map_cons, List.map_cons, List.map_cons, List.map_cons,
        Json.printMembers_cons_cons, Json.printMembers_cons_cons]
      simpa using hmore

/-! ### The preview -/

/-- The preview of a long text is made of the first nine bytes of its front. -/
theorem preview_of_front {front : List Char} (hlong : 9 < front.length) (rest : List Char) :
    Text.truncate (String.ofList (Text.Base64.encode (Text.Utf8.encode (front ++ rest))))
        previewLength previewMark =
      String.ofList (Text.Base64.encode ((Text.Utf8.encode front).take 9)) ++ previewMark := by
  have hbytes := Text.Utf8.length_le_length_encode front
  have hfirst : ((Text.Utf8.encode front).take 9).length = 9 := by
    rw [List.length_take]
    omega
  have hparted : Text.Utf8.encode (front ++ rest) = (Text.Utf8.encode front).take 9 ++
      ((Text.Utf8.encode front).drop 9 ++ Text.Utf8.encode rest) := by
    rw [← List.append_assoc, List.take_append_drop]
    exact List.flatMap_append
  have hmore : Text.Base64.encode ((Text.Utf8.encode front).drop 9 ++ Text.Utf8.encode rest) ≠ [] := by
    intro hnil
    have hlength := congrArg List.length hnil
    rw [Text.Base64.length_encode, List.length_append, List.length_drop, List.length_nil] at hlength
    omega
  have hunits : Text.unitLength (Text.Base64.encode ((Text.Utf8.encode front).take 9)) = 12 := by
    rw [Text.unitLength_of_isAscii fun c hc => Text.Base64.toNat_lt_of_mem_encode hc,
      Text.Base64.length_encode, hfirst]
  have hlimit : previewLength =
      .finite (Text.unitLength (Text.Base64.encode ((Text.Utf8.encode front).take 9))) := by
    rw [hunits]
    decide +kernel
  rw [hparted, Text.Base64.encode_append (by rw [hfirst]), hlimit]
  exact Text.truncate_append hmore previewMark

/-- Sets that begin alike in print have the same preview. -/
theorem preview_congr {set set' : CredentialSet}
    (h : BeginAlike 9 (Json.print set.toJson) (Json.print set'.toJson)) :
    Text.truncate (Registry.headerOf set) previewLength previewMark =
      Text.truncate (Registry.headerOf set') previewLength previewMark := by
  rw [Registry.headerOf, Registry.headerOf]
  generalize Json.print set.toJson = s at h ⊢
  generalize Json.print set'.toJson = s' at h ⊢
  cases h with
  | same => rfl
  | front hlong rest rest' => rw [preview_of_front hlong, preview_of_front hlong]

/-! ### Main result -/

/-- The credentials of registries with the same fields have the same fields. -/
theorem SameFields.forall₂_credentialsOf {own other : Members Json}
    (hown : ∀ m ∈ own, IsCredentialEntry m.2) (hother : ∀ m ∈ other, IsCredentialEntry m.2)
    (h : SameFields own other) :
    List.Forall₂ (fun c c' => c.1 = c'.1 ∧ SameNames c.2 c'.2)
      (own.map fun m => (m.1, Registry.credentialsOf m.2))
      (other.map fun m => (m.1, Registry.credentialsOf m.2)) := by
  induction h with
  | nil => exact .nil
  | @cons m n own other hm _ ih =>
    obtain ⟨hm', hown⟩ := List.forall_mem_cons.1 hown
    obtain ⟨hn', hother⟩ := List.forall_mem_cons.1 hother
    refine .cons ⟨hm.1, ?_⟩ (ih hown hother)
    rw [SameNames, names_fieldMembers_credentialsOf hm', names_fieldMembers_credentialsOf hn']
    exact List.filter_congr hm.2

/-- They are the same registries. -/
theorem SameFields.names_eq {own other : Members Json} (h : SameFields own other) :
    own.names = other.names := by
  induction h with
  | nil => rfl
  | cons hm _ ih => exact congrArg₂ List.cons hm.1 ih

/-- **The preview shows no credential.** Credentials in the same fields of the same registries are
    described alike, unless all of the header is asked for: what is told depends on the registries
    and on which fields are present, and never on the value of a field. -/
theorem preview_eq {own other : Members Json} (hown : IsCredentialSet own)
    (hother : IsCredentialSet other) (h : SameFields own other) :
    ∃ text, describeHeader (.ofJson (.object own)) false = .ok text ∧
      describeHeader (.ofJson (.object other)) false = .ok text := by
  have hshown : Text.truncate
        (Registry.headerOf (own.map fun m => (m.1, Registry.credentialsOf m.2)))
        previewLength previewMark =
      Text.truncate (Registry.headerOf (other.map fun m => (m.1, Registry.credentialsOf m.2)))
        previewLength previewMark := by
    apply preview_congr
    rw [CredentialSet.toJson, CredentialSet.toJson, Json.print, Json.print]
    have hmembers :=
      beginAlike_printMembers (h.forall₂_credentialsOf hown.entries hother.entries)
    exact .append (.append_left ['{'] hmembers) (.same ['}'])
  have hregistries : (Registry.Source.ofJson (.object own)).registries =
      (Registry.Source.ofJson (.object other)).registries := by
    simpa [Registry.Source.ofJson, Registry.Source.registries, Members.names, Function.comp_def]
      using h.names_eq
  unfold describeHeader
  rw [(Registry.encode_of_isCredentialSet hown).1, (Registry.encode_of_isCredentialSet hother).1]
  simp only [bind, Except.bind, Bool.false_eq_true, if_false, hshown, hregistries]
  exact ⟨_, rfl, rfl⟩

/-- A registry without a name, so that its credentials are printed as early as possible. -/
def namelessRegistry (email : Json) : Members Json :=
  [("", .object [("note", .string "staging"), ("email", email)])]

/-- The first address in its credentials is described like the want of one. -/
theorem preview_of_nameless_registry :
    (IsCredentialSet (namelessRegistry (.string "ops@example.com")) ∧
      IsCredentialSet (namelessRegistry .null) ∧
      SameFields (namelessRegistry (.string "ops@example.com")) (namelessRegistry .null)) ∧
    ∃ text,
      describeHeader (.ofJson (.object (namelessRegistry (.string "ops@example.com")))) false =
        .ok text ∧
      describeHeader (.ofJson (.object (namelessRegistry .null))) false = .ok text := by
  have hset : ∀ email, Registry.IsFieldValue email → IsCredentialSet (namelessRegistry email) := by
    intro email hemail
    refine ⟨List.pairwise_singleton _ _, by simp [namelessRegistry, Members.reservedName], ?_⟩
    simp [namelessRegistry, IsCredentialEntry, Credentials.fieldNames, Json.kind, Json.get?,
      Json.members?, hemail]
  have hown := hset (.string "ops@example.com") (.inr ⟨_, rfl⟩)
  have hother := hset .null (.inl rfl)
  have hsame : SameFields (namelessRegistry (.string "ops@example.com"))
      (namelessRegistry .null) := .cons ⟨rfl, by decide⟩ .nil
  exact ⟨⟨hown, hother, hsame⟩, preview_eq hown hother hsame⟩

end ImageBuild.CommandLine
