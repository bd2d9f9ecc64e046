import ImageBuild.Request.Params

namespace ImageBuild.Request

/-!
# Refused options — what keeps a build from getting its parameters

Options that get parameters have passed every check (`accepted_of_paramsOf`), so an `OptionDefect`
keeps them from it, whatever else there is (`paramsOf_ne_ok`).  Where the Dockerfile is a text,
options are refused with a client error (`client_of_paramsOf`): of the Dockerfile's kind when its
name is at fault, and of the parameters' kind otherwise (`invalidDockerfile_of_name`,
`buildParam_of_not_accepted`).  Nothing else is refused (`ok_of_accepted`).
-/

/-- The Dockerfile of build options is a text, where they have one. -/
def HasTextDockerfile (given : Json) : Prop :=
  ∀ value, given.get? "dockerfile" = some value → value.kind = .string

/-- A defect of build options. -/
inductive OptionDefect (given : Json) : Prop
  /-- The name of the Dockerfile is empty or has a NUL in it. -/
  | dockerfile {dockerfile : String} (h : given.get? "dockerfile" = some (.string dockerfile))
    (hname : dockerfile = "" ∨ '\x00' ∈ dockerfile.toList)
  /-- The options are no object. -/
  | kind (h : given.kind ≠ .object)
  /-- A known option has a value of another form than it requires. -/
  | form {name : String} {form : Form} {value : Json} (hform : (name, form) ∈ Options.forms)
    (hvalue : given.get? name = some value) (hissue : form value ≠ none)
  /-- The tag is not in the grammar. -/
  | tag {tag : String} (h : given.get? "tag" = some (.string tag)) (htag : isValidTag tag = false)

/-- Options have passed every check. -/
structure Accepted (given : Json) : Prop where
  dockerfile : (given.get? "dockerfile").bind Options.dockerfileFailure? = none
  forms : Options.issue? given = none
  tag : ∀ tag, given.get? "tag" = some (.string tag) → isValidTag tag = true

/-! ### Checks that have passed -/

/-- What is no object has no members. -/
theorem get?_eq_getD_members? (given : Json) (name : String) :
    given.get? name = (given.members?.getD []).get? name := by
  cases given <;> rfl

/-- A member of an object is found among its members. -/
@[simp] theorem get?_object (members : Members Json) (name : String) :
    (Json.object members).get? name = members.get? name := rfl

/-- Options that get parameters have passed every check. -/
theorem accepted_of_paramsOf {given : Json} {dockerfile remote : Option String} {params : Params}
    (h : paramsOf given dockerfile remote = .ok params) : Accepted given := by
  rw [paramsOf] at h
  -- the checks in their order: the Dockerfile, the forms, the tag
  split at h
  · cases h
  · split at h
    · cases h
    · rename_i hdockerfile
      cases hissue : Options.issue? given with
      | some issue => simp [Options.check, hissue] at h
      | none =>
        refine ⟨hdockerfile, hissue, fun tag htag => ?_⟩
        have hread : (Options.ofMembers (given.members?.getD [])).tag = some tag := by
          rw [get?_eq_getD_members?] at htag
          simp [Options.ofMembers, htag, Json.string?]
        simp only [Options.check, hissue, hread] at h
        split at h
        · assumption
        · cases h

/-- A name that is given as a text has no defect when the check of the Dockerfile passes. -/
theorem dockerfileError?_eq_none_iff (dockerfile : String) :
    Options.dockerfileError? dockerfile = none ↔
      ¬ (dockerfile = "" ∨ '\x00' ∈ dockerfile.toList) := by
  rw [Options.dockerfileError?]
  split
  · rename_i hempty
    simp [String.isEmpty_iff.1 hempty]
  · rename_i hempty
    have hne : dockerfile ≠ "" := mt String.isEmpty_iff.2 hempty
    simp [hne]

/-- What a name is refused for is of the Dockerfile's kind. -/
theorem kind_of_dockerfileError? {dockerfile : String} {e : ClientError}
    (h : Options.dockerfileError? dockerfile = some e) : e.kind = .invalidDockerfileSpec := by
  rw [Options.dockerfileError?] at h
  split at h
  · cases h
    rfl
  · split at h
    · cases h
      rfl
    · cases h

/-- A known option of an object whose form passes the check has no issue. -/
theorem form_eq_none {given : Json} (h : Options.issue? given = none) {name : String} {form : Form}
    {value : Json} (hform : (name, form) ∈ Options.forms) (hvalue : given.get? name = some value) :
    form value = none := by
  cases given with
  | object members =>
    rw [Options.issue?, Options.memberIssue?, List.findSome?_eq_none_iff] at h
    have hissue := h _ hform
    rw [get?_object] at hvalue
    simpa [hvalue, Form.within] using hissue
  | _ => cases hvalue

/-- Accepted options have no defect. -/
theorem Accepted.not_defect {given : Json} (h : Accepted given) : ¬ OptionDefect given := by
  intro hdefect
  cases hdefect with
  | dockerfile hd hname =>
    have hnone := h.dockerfile
    rw [hd] at hnone
    simp only [Option.bind_some, Options.dockerfileFailure?, Option.map_eq_none_iff] at hnone
    exact (dockerfileError?_eq_none_iff _).1 hnone hname
  | kind hkind =>
    have hnone := h.forms
    cases given <;> simp_all [Options.issue?, Form.here, Json.kind]
  | form hform hvalue hissue => exact hissue (form_eq_none h.forms hform hvalue)
  | tag ht htag =>
    simp [h.tag _ ht] at htag

/-- Options with a defect get no parameters. -/
theorem paramsOf_ne_ok {given : Json} (h : OptionDefect given) (dockerfile remote : Option String)
    (params : Params) : paramsOf given dockerfile remote ≠ .ok params :=
  fun hok => (accepted_of_paramsOf hok).not_defect h

/-! ### Acceptance -/

/-- Only objects are accepted. -/
theorem Accepted.kind_eq_object {given : Json} (h : Accepted given) : given.kind = .object :=
  Decidable.byContradiction fun hkind => h.not_defect (.kind hkind)

/-- Accepted options are an object. -/
theorem Accepted.exists_members {given : Json} (h : Accepted given) :
    ∃ members : Members Json, given = .object members := by
  have hkind : given.kind = .object := h.kind_eq_object
  cases given with
  | object members => exact ⟨members, rfl⟩
  | _ => cases hkind

/-- Accepted options get the parameters that they stand for. -/
theorem ok_of_accepted {given : Json} (h : Accepted given) (dockerfile remote : Option String) :
    paramsOf given dockerfile remote =
      .ok (Params.ofOptions (Options.ofMembers (given.members?.getD [])) dockerfile remote) := by
  have hkind : given.kind ≠ .null := by simp [h.kind_eq_object]
  have hcheck : Options.check given = .ok (Options.ofMembers (given.members?.getD [])) := by
    rw [Options.check, h.forms]
  rw [paramsOf, if_neg hkind, h.dockerfile, hcheck]
  dsimp only
  split
  · rename_i tag htag
    obtain ⟨value, hvalue, hread⟩ := Option.bind_eq_some_iff.1 htag
    cases value with
    | string text =>
      cases hread
      rw [if_pos (h.tag tag (by rwa [get?_eq_getD_members?]))]
    | _ => cases hread
  · rfl

/-- The parameters are those that the options stand for, with the Dockerfile and the remote context
    that they were asked for with. -/
theorem eq_ofOptions_of_paramsOf {given : Json} {dockerfile remote : Option String}
    {params : Params} (h : paramsOf given dockerfile remote = .ok params) :
    params = Params.ofOptions (Options.ofMembers (given.members?.getD [])) dockerfile remote := by
  have hok := ok_of_accepted (accepted_of_paramsOf h) dockerfile remote
  rw [h] at hok
  exact Except.ok.inj hok

/-- The parameters carry the name of the Dockerfile that they were asked for with. -/
theorem dockerfile_of_paramsOf {given : Json} {dockerfile remote : Option String} {params : Params}
    (h : paramsOf given dockerfile remote = .ok params) : params.dockerfile = dockerfile := by
  rw [eq_ofOptions_of_paramsOf h]
  rfl

/-- The parameters carry the remote context that they were asked for with. -/
theorem remote_of_paramsOf {given : Json} {dockerfile remote : Option String} {params : Params}
    (h : paramsOf given dockerfile remote = .ok params) : params.remote = remote := by
  rw [eq_ofOptions_of_paramsOf h]
  rfl

/-! ### Refusals -/

/-- A name with a defect is refused as a Dockerfile, whatever else the options are. -/
theorem invalidDockerfile_of_name {given : Json} {name : String}
    (h : given.get? "dockerfile" = some (.string name)) (hname : name = "" ∨ '\x00' ∈ name.toList)
    (dockerfile remote : Option String) :
    ∃ e, paramsOf given dockerfile remote = .error (.client e) ∧
      e.kind = .invalidDockerfileSpec := by
  have hkind : given.kind ≠ .null := by
    cases given <;> simp_all [Json.get?, Json.members?, Json.kind]
  cases herror : Options.dockerfileError? name with
  | none => exact absurd hname ((dockerfileError?_eq_none_iff name).1 herror)
  | some e =>
    refine ⟨e, ?_, kind_of_dockerfileError? herror⟩
    rw [paramsOf, if_neg hkind, h, Option.bind_some, Options.dockerfileFailure?, herror]
    rfl

/-- Options whose Dockerfile passes its check, but which are not accepted, are refused as
    parameters. -/
theorem buildParam_of_not_accepted {given : Json} (hkind : given.kind ≠ .null)
    (hdockerfile : (given.get? "dockerfile").bind Options.dockerfileFailure? = none)
    (h : ¬ Accepted given) (dockerfile remote : Option String) :
    ∃ e, paramsOf given dockerfile remote = .error (.client e) ∧ e.kind = .buildParam := by
  cases hresult : paramsOf given dockerfile remote with
  | ok params => exact absurd (accepted_of_paramsOf hresult) h
  | error failure =>
    rw [paramsOf, if_neg hkind, hdockerfile, Options.check] at hresult
    cases hissue : Options.issue? given with
    | some issue =>
      rw [hissue] at hresult
      cases hresult
      exact ⟨_, rfl, rfl⟩
    | none =>
      rw [hissue] at hresult
      dsimp only at hresult
      split at hresult
      · split at hresult <;> cases hresult
        exact ⟨_, rfl, rfl⟩
      · cases hresult

/-- Options whose Dockerfile is a text are refused with a client error. -/
theorem client_of_paramsOf {given : Json} {dockerfile remote : Option String} {f : Failure}
    (hkind : given.kind ≠ .null) (htext : HasTextDockerfile given)
    (h : paramsOf given dockerfile remote = .error f) : ∃ e, f = .client e := by
  cases hfile : (given.get? "dockerfile").bind Options.dockerfileFailure? with
  | some failure =>
    rw [paramsOf, if_neg hkind, hfile] at h
    cases h
    obtain ⟨value, hvalue, hfailure⟩ := Option.bind_eq_some_iff.1 hfile
    cases value with
    | string name =>
      obtain ⟨e, -, he⟩ := Option.map_eq_some_iff.1 hfailure
      exact ⟨e, he.symm⟩
    | _ => exact absurd (htext _ hvalue) (by simp [Json.kind])
  | none =>
    -- all later checks give client errors only
    have hnot : ¬ Accepted given := by
      intro haccepted
      rw [ok_of_accepted haccepted] at h
      cases h
    obtain ⟨e, he, -⟩ := buildParam_of_not_accepted hkind hfile hnot dockerfile remote
    rw [h] at he
    exact ⟨e, Except.error.inj he⟩

end ImageBuild.Request
