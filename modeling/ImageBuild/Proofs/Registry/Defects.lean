import ImageBuild.Registry.Header
import ImageBuild.Proofs.Registry.Sets
import Mathlib.Data.List.Forall2
import Mathlib.Data.List.Nodup

namespace ImageBuild.Registry

/-!
# Defects of credentials — why they are refused, and what is said about it

Credentials have places: the entry of each registry, and each credential field of an entry.  What is
given at a place offends when it is of another kind than the place admits (`Offends`).  The check
finds exactly the places that offend, each once and in their order (`mem_defects_iff`,
`defects_sublist`, `nodup_placesOf`).  Of what is given there it tells only the kind, so that
credentials with values of the same kinds are refused in the same words (`refused_credentials`).
-/

/-! ### Places -/

/-- A place in credentials: the entry of a registry, or a field of this entry. -/
inductive Place
  | entry (registry : String)
  | field (registry name : String)
deriving DecidableEq

namespace Place

/-- The kind of value that a place asks for. -/
def expected : Place → Json.Kind
  | .entry _ => .object
  | .field .. => .string

/-- Whether a value may be given at a place.  A field may also be null. -/
def Admits : Place → Json → Prop
  | .entry _, v => v.kind = .object
  | .field .., v => IsFieldValue v

/-- The names that lead to a place. -/
def path : Place → List String
  | .entry registry => [registry]
  | .field registry name => [registry, name]

/-- A place in a message.  The entry of a registry without a name is the root. -/
def text : Place → String
  | .entry registry => if registry = "" then "<root>" else registry
  | .field registry name => registry ++ "." ++ name

/-- What a message says about a place where a value of some kind is given. -/
def complaint (p : Place) (received : Json.Kind) : String :=
  p.text ++ ": " ++ ("Expected " ++ p.expected.name ++ ", received " ++ received.name)

/-- The issue of a place where a value of some kind is given. -/
def issue (p : Place) (received : Json.Kind) : Issue := ⟨p.path, .wrongKind p.expected received⟩

/-- An issue is described by the complaint about its place. -/
theorem describe_issue (p : Place) (received : Json.Kind) :
    (p.issue received).describe = p.complaint received := by
  have hplace : (p.issue received).namedPlace = p.text := by
    cases p with
    | entry registry => simp [issue, path, text, Issue.namedPlace, Issue.place]
    | field registry name =>
      have hjoin : ".".intercalate [registry, name] = registry ++ "." ++ name := rfl
      simp [issue, path, text, Issue.namedPlace, Issue.place, hjoin]
  rw [Issue.describe, hplace, complaint]
  rfl

end Place

/-- The places of credentials: each entry, and behind it its fields in the order in which they are
    written. -/
def placesOf (own : Members Json) : List Place :=
  own.flatMap fun m => .entry m.1 :: Credentials.fieldNames.map (.field m.1)

/-- What is given at a place. -/
inductive GivenAt (own : Members Json) : Place → Json → Prop
  | entry {registry : String} {given : Json} (h : (registry, given) ∈ own) :
    GivenAt own (.entry registry) given
  | field {registry name : String} {given v : Json} (h : (registry, given) ∈ own)
    (hname : name ∈ Credentials.fieldNames) (hv : given.get? name = some v) :
    GivenAt own (.field registry name) v

/-- What is given at a place is not what the place admits. -/
def Offends (own : Members Json) (p : Place) (v : Json) : Prop := GivenAt own p v ∧ ¬ p.Admits v

/-- No place is there twice. -/
theorem nodup_placesOf {own : Members Json} (h : own.IsListed) : (placesOf own).Nodup := by
  rw [placesOf, List.nodup_flatMap]
  constructor
  · intro m _
    have hnames : Credentials.fieldNames.Nodup := by decide
    rw [List.nodup_cons]
    refine ⟨by simp, hnames.map ?_⟩
    intro a b hab
    simpa using hab
  · -- places of two registries differ in the registry
    refine h.imp fun {m n} hmn p hpm hpn => ?_
    have hne : m.1 ≠ n.1 := by
      intro heq
      rw [heq, Members.precedes_irrefl] at hmn
      cases hmn
    cases p <;> simp_all

/-! ### What the check finds -/

/-- The places of an entry that offend, with what is given there. -/
def entryDefects (registry : String) : Json → List (Place × Json)
  | .object members =>
    Credentials.fieldNames.filterMap fun name =>
      ((Members.get? members name).filter fun v => (fieldProblem? v).isSome).map fun v =>
        (.field registry name, v)
  | given => [(.entry registry, given)]

/-- The places that offend, with what is given there. -/
def defects (own : Members Json) : List (Place × Json) :=
  own.flatMap fun m => entryDefects m.1 m.2

/-- What is wrong with a value is its kind. -/
theorem fieldProblem?_of_not {v : Json} (h : ¬ IsFieldValue v) :
    fieldProblem? v = some (.wrongKind .string v.kind) := by
  cases v <;> first | rfl | simp [IsFieldValue] at h

/-- The issues of an entry are those of its places that offend. -/
theorem entryIssues_eq (registry : String) (given : Json) :
    entryIssues registry (some given) =
      (entryDefects registry given).map fun d => d.1.issue d.2.kind := by
  cases given with
  | object members =>
    -- both go through the names of the fields, so that they are compared under one name
    rw [entryIssues, entryDefects, List.map_filterMap]
    refine List.filterMap_congr fun name _ => ?_
    cases hv : Members.get? members name with
    | none => rfl
    | some v =>
      by_cases hform : IsFieldValue v
      · simp [Option.filter, (fieldProblem?_eq_none_iff v).2 hform]
      · simp [Option.filter, fieldProblem?_of_not hform, Place.issue, Place.path, Place.expected]
  | _ => simp [entryIssues, entryDefects, Place.issue, Place.path, Place.expected]

/-- The issues of credentials are those of the places that offend. -/
theorem issues_eq (own : Members Json) :
    (Source.ofJson (.object own)).issues = (defects own).map fun d => d.1.issue d.2.kind := by
  simp only [issues_object, defects, List.map_flatMap, entryIssues_eq]

/-- Of an entry that is no object the entry offends, and of an object the fields that are neither
    null nor texts. -/
theorem mem_entryDefects_iff {registry : String} {given : Json} {p : Place} {v : Json} :
    (p, v) ∈ entryDefects registry given ↔
      (p = .entry registry ∧ v = given ∧ given.kind ≠ .object) ∨
      ∃ name ∈ Credentials.fieldNames, p = .field registry name ∧ given.get? name = some v ∧
        ¬ IsFieldValue v := by
  have hform : (fieldProblem? v).isSome = true ↔ ¬ IsFieldValue v := by
    rw [← fieldProblem?_eq_none_iff, Option.isSome_iff_ne_none]
  cases given with
  | object members =>
    simp only [entryDefects, List.mem_filterMap, Option.map_eq_some_iff, Option.filter_eq_some_iff,
      Prod.mk.injEq, Json.kind, ne_eq, not_true_eq_false, and_false, false_or]
    constructor
    · rintro ⟨name, hname, w, ⟨hw, hproblem⟩, rfl, rfl⟩
      exact ⟨name, hname, rfl, hw, hform.1 hproblem⟩
    · rintro ⟨name, hname, rfl, hv, hbad⟩
      exact ⟨name, hname, v, ⟨hv, hform.2 hbad⟩, rfl, rfl⟩
  | _ => simp [entryDefects, Json.get?, Json.members?, Json.kind]

/-- The check finds exactly the places that offend. -/
theorem mem_defects_iff {own : Members Json} {p : Place} {v : Json} :
    (p, v) ∈ defects own ↔ Offends own p v := by
  rw [defects, List.mem_flatMap]
  constructor
  · rintro ⟨⟨registry, given⟩, hm, hdefect⟩
    rcases mem_entryDefects_iff.1 hdefect with ⟨rfl, rfl, hkind⟩ | ⟨name, hname, rfl, hv, hform⟩
    · exact ⟨.entry hm, hkind⟩
    · exact ⟨.field hm hname hv, hform⟩
  · rintro ⟨hgiven, hadmits⟩
    cases hgiven with
    | entry hm => exact ⟨_, hm, mem_entryDefects_iff.2 (.inl ⟨rfl, rfl, hadmits⟩)⟩
    | field hm hname hv =>
      exact ⟨_, hm, mem_entryDefects_iff.2 (.inr ⟨_, hname, rfl, hv, hadmits⟩)⟩

/-- The check finds places in their order. -/
theorem defects_sublist (own : Members Json) :
    ((defects own).map (·.1)).Sublist (placesOf own) := by
  have hentry : ∀ (registry : String) (given : Json),
      ((entryDefects registry given).map (·.1)).Sublist
        (.entry registry :: Credentials.fieldNames.map (.field registry)) := by
    intro registry given
    cases given with
    | object members =>
      -- an object does not offend itself, only its fields may
      refine List.Sublist.cons _ ?_
      rw [entryDefects, List.map_filterMap]
      refine Members.filterMap_sublist_map (fun name p h => ?_) Credentials.fieldNames
      rw [Option.map_map, Option.map_eq_some_iff] at h
      obtain ⟨v, -, rfl⟩ := h
      rfl
    | _ => simp [entryDefects]
  induction own with
  | nil => exact List.Sublist.refl []
  | cons m own ih =>
    rw [defects, List.flatMap_cons, List.map_append, placesOf, List.flatMap_cons]
    exact (hentry m.1 m.2).append ih

/-! ### What is said -/

/-- A source with issues does not pass the check. -/
theorem check_of_issues {source : Source} (h : source.issues ≠ []) :
    source.check = .error (.invalidCredentials source.issues) := by
  obtain ⟨first, rest, hfound⟩ := List.exists_cons_of_ne_nil h
  rw [Source.check, hfound]

/-- A source with issues is not encoded. -/
theorem encode_of_issues {source : Source} (h : source.issues ≠ []) :
    encode source = .error (.invalidCredentials source.issues) := by
  rw [encode, check_of_issues h]
  rfl

/-- There are issues exactly when something offends. -/
theorem issues_ne_nil_iff (own : Members Json) :
    (Source.ofJson (.object own)).issues ≠ [] ↔ ∃ p v, Offends own p v := by
  rw [issues_eq, Ne, List.map_eq_nil_iff, List.eq_nil_iff_forall_not_mem]
  simp [mem_defects_iff]

/-- Two values are of the same kind, and so are their credential fields. -/
structure SameKinds (v w : Json) : Prop where
  kind : v.kind = w.kind
  fields : ∀ name ∈ Credentials.fieldNames,
    (v.get? name).map Json.kind = (w.get? name).map Json.kind

/-- What is wrong with a value depends on its kind alone. -/
theorem fieldProblem?_congr {v w : Json} (h : v.kind = w.kind) :
    fieldProblem? v = fieldProblem? w := by
  cases v <;> cases w <;> simp_all [fieldProblem?, Json.kind]

/-- What is wrong with an entry depends on kinds alone. -/
theorem entryIssues_congr {given other : Json} (h : SameKinds given other) (registry : String) :
    entryIssues registry (some given) = entryIssues registry (some other) := by
  obtain ⟨hkind, hfields⟩ := h
  cases given with
  | object members =>
    cases other with
    | object members' =>
      rw [entryIssues, entryIssues]
      refine List.filterMap_congr fun name hname => ?_
      have hfield : (Members.get? members name).map Json.kind =
          (Members.get? members' name).map Json.kind := hfields name hname
      cases hv : Members.get? members name with
      | none =>
        rw [hv, Option.map_none, eq_comm, Option.map_eq_none_iff] at hfield
        rw [hfield]
      | some v =>
        rw [hv, Option.map_some, eq_comm, Option.map_eq_some_iff] at hfield
        obtain ⟨w, hw, hvw⟩ := hfield
        rw [hw, Option.bind_some, Option.bind_some, fieldProblem?_congr hvw]
    | _ => simp [Json.kind] at hkind
  | _ =>
    -- of a value that is no object, the issue tells the kind
    cases other with
    | object members' => simp [Json.kind] at hkind
    | _ => simp_all [entryIssues]

/-- The same registries are given in the same order, and for each of them values of the same
    kinds. -/
def SameShape (own other : Members Json) : Prop :=
  List.Forall₂ (fun m n => m.1 = n.1 ∧ SameKinds m.2 n.2) own other

/-- Credentials of the same shape have the same issues. -/
theorem issues_congr {own other : Members Json} (h : SameShape own other) :
    (Source.ofJson (.object own)).issues = (Source.ofJson (.object other)).issues := by
  rw [issues_object, issues_object]
  induction h with
  | nil => rfl
  | cons hm _ ih =>
    rw [List.flatMap_cons, List.flatMap_cons, ih, hm.1, entryIssues_congr hm.2]

/-- **Refused credentials.**  The credentials of an object are refused exactly when some entry is
    no object, or some credential field of an entry is neither null nor a text.  They are refused
    with an encoding error, whose message complains of every place that offends, once and in the
    order of the registries and of the fields, and of nothing else.  Credentials that differ only in
    values, and not in the kinds of these, are refused with the same error: no value comes into the
    message. -/
theorem refused_credentials (own : Members Json) (hlisted : own.IsListed) :
    ((∃ e, encode (.ofJson (.object own)) = .error e) ↔ ∃ p v, Offends own p v) ∧
    (∀ e, encode (.ofJson (.object own)) = .error e → e.kind = .encoding ∧
      ∃ found : List (Place × Json), (∀ p v, (p, v) ∈ found ↔ Offends own p v) ∧
        (found.map (·.1)).Sublist (placesOf own) ∧ (placesOf own).Nodup ∧
        e.message = "Invalid registry auth config: " ++
          "; ".intercalate (found.map fun d => d.1.complaint d.2.kind)) ∧
    ∀ other, SameShape own other → ∀ e, encode (.ofJson (.object own)) = .error e →
      encode (.ofJson (.object other)) = .error e := by
  have herror : ∀ {e}, encode (.ofJson (.object own)) = .error e →
      (Source.ofJson (.object own)).issues ≠ [] ∧
        e = .invalidCredentials (Source.ofJson (.object own)).issues := by
    intro e h
    by_cases hissues : (Source.ofJson (.object own)).issues = []
    · rw [encode, Source.check, hissues] at h
      cases h
    · rw [encode_of_issues hissues, Except.error.injEq] at h
      exact ⟨hissues, h.symm⟩
  refine ⟨⟨fun h => h.elim fun _ h => (issues_ne_nil_iff own).1 (herror h).1, fun h => ?_⟩,
    fun e h => ?_, fun other hshape e h => ?_⟩
  · have hissues := (issues_ne_nil_iff own).2 h
    exact ⟨_, encode_of_issues hissues⟩
  · -- the message is made of the issues, and these are the defects in the order of their places
    obtain ⟨-, rfl⟩ := herror h
    have hdescribed : (Source.ofJson (.object own)).issues.map Issue.describe =
        (defects own).map fun d => d.1.complaint d.2.kind := by
      rw [issues_eq, List.map_map]
      exact List.map_congr_left fun d _ => Place.describe_issue d.1 d.2.kind
    have hmessage := congrArg ("Invalid registry auth config: " ++ "; ".intercalate ·) hdescribed
    exact ⟨rfl, defects own, fun p v => mem_defects_iff, defects_sublist own,
      nodup_placesOf hlisted, hmessage⟩
  · -- the error holds the issues and nothing else of the credentials
    obtain ⟨hissues, rfl⟩ := herror h
    rw [issues_congr hshape] at hissues ⊢
    exact encode_of_issues hissues

/-- Credentials with an entry without a name that is no object, two fields of the wrong kinds, and a
    secret of the right kind. -/
def defective (secret : String) : Members Json :=
  [("", .string secret),
    ("r.example", .object [("password", .array [.string secret]), ("username", .bool true),
      ("identitytoken", .string secret)])]

/-- The message names the three places in their order, and does not depend on the secret. -/
theorem defective_is_refused_alike :
    (defective "s").IsListed ∧ SameShape (defective "s") (defective "other") ∧
      ∃ e, encode (.ofJson (.object (defective "other"))) = .error e ∧
        e.message = "Invalid registry auth config: " ++
          "<root>: Expected object, received string; " ++
          "r.example.username: Expected string, received boolean; " ++
          "r.example.password: Expected string, received array" := by
  have hlisted : (defective "s").IsListed := by decide
  have hshape : SameShape (defective "s") (defective "other") := by
    refine .cons ⟨rfl, rfl, by decide⟩ (.cons ⟨rfl, rfl, by decide⟩ .nil)
  obtain ⟨-, -, hother⟩ := refused_credentials (defective "s") hlisted
  exact ⟨hlisted, hshape, _, hother _ hshape _ rfl, by decide +kernel⟩

end ImageBuild.Registry
