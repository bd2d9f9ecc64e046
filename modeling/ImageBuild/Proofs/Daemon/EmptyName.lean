import ImageBuild.Proofs.Context.RootName
import ImageBuild.Proofs.Daemon.EffectOrder

namespace ImageBuild.Daemon

open ImageBuild.Path

/-!
# The Dockerfile that a local build asks for — when its name is left out, and when it is empty

The options are checked as the caller gives them, and the daemon is told the name that resolution
makes of them (`told_of_prepare`).  A name is told exactly when one is given, and the given one has
some text; whether the name that is told has some, too, is a question of where it leads
(`name_told_for_local_build`).
-/

/-- A Dockerfile that is asked for gets a name. -/
theorem exists_contextRelativePath (place : Context.Place) (spec contextRoot : String) :
    ∃ name, (Context.resolve place spec contextRoot).contextRelativePath = some name := by
  rw [Context.resolve]
  dsimp only
  split <;> exact ⟨_, rfl⟩

/-- A local build that becomes ready has accepted options, and the daemon is told the name that the
    Dockerfile in them is resolved to. -/
theorem told_of_prepare {client : Client} {r : BuildRequest} {path : String}
    (hlocal : r.IsLocal path) {s s' : Session} {b : PreparedBuild}
    (h : (prepare client r).run s = (.ok b, s')) :
    Request.Accepted r.options ∧ ∃ dockerfile, directoryDockerfile r.options = .ok dockerfile ∧
      b.params.dockerfile = (Context.resolve? (placeIn s.environment) dockerfile
        (Context.normalizeRoot (placeIn s.environment) path)).contextRelativePath := by
  obtain ⟨place, params, headers, hplace, hchecks, h⟩ := ok_of_prepare h
  obtain rfl : place = .directory path := (hasPlace_of_place hplace).unique hlocal
  obtain ⟨dockerfile, hdockerfile, hcheck⟩ := ok_of_bind hchecks
  have hparams := (parts_of_checkBuild hcheck).1
  rw [complete, Action.run_emit_bind] at h
  obtain ⟨body, s₁, -, h⟩ := Action.ok_of_run_bind h
  cases h
  exact ⟨Request.accepted_of_paramsOf hparams, dockerfile, hdockerfile,
    Request.dockerfile_of_paramsOf hparams⟩

/-- The Dockerfile in accepted options of a directory is a text that is not empty, where there is
    any. -/
theorem exists_spec_of_accepted {options : Json} (h : Request.Accepted options)
    {dockerfile : Option String} (hread : directoryDockerfile options = .ok dockerfile)
    {value : Json} (hvalue : options.get? "dockerfile" = some value) :
    ∃ spec, value = .string spec ∧ dockerfile = some spec ∧ spec ≠ "" := by
  have hcheck := h.dockerfile
  rw [hvalue, Option.bind_some] at hcheck
  rw [directoryDockerfile, hvalue] at hread
  cases value with
  | null => cases hcheck
  | string spec =>
    rw [Request.Options.dockerfileFailure?, Option.map_eq_none_iff,
      Request.dockerfileError?_eq_none_iff, not_or] at hcheck
    cases hread
    exact ⟨spec, rfl, rfl, hcheck.1⟩
  | _ => cases hread

/-- **The name that is told.** Of a local build that becomes ready, the daemon is told no name for
    the Dockerfile exactly when the options have none.  Otherwise the options have a text that is not
    empty, and the daemon is told some name.  Where the location of the text is known, this name is
    empty exactly when the text names the context root itself: by an absolute path to it, or, by
    Windows rules, with nothing but the mark of long paths. -/
theorem name_told_for_local_build {client : Client} {r : BuildRequest} {path : String}
    (hlocal : r.IsLocal path) {s s' : Session} {b : PreparedBuild}
    (h : (prepare client r).run s = (.ok b, s')) :
    let place := placeIn s.environment
    let contextRoot := Context.normalizeRoot place path
    (b.params.dockerfile = none ↔ r.options.get? "dockerfile" = none) ∧
    ∀ value, r.options.get? "dockerfile" = some value →
      ∃ spec name, value = .string spec ∧ spec ≠ "" ∧ b.params.dockerfile = some name ∧
        (Context.IsPlaced place contextRoot spec →
          (name = "" ↔ Context.NamesRoot place contextRoot spec)) := by
  intro place contextRoot
  obtain ⟨haccepted, dockerfile, hread, htold⟩ := told_of_prepare hlocal h
  cases hvalue : r.options.get? "dockerfile" with
  | none =>
    rw [directoryDockerfile, hvalue] at hread
    cases hread
    refine ⟨by simp [htold, Context.resolve?], ?_⟩
    rintro value ⟨⟩
  | some value =>
    obtain ⟨spec, rfl, rfl, hne⟩ := exists_spec_of_accepted haccepted hread hvalue
    obtain ⟨name, hname⟩ := exists_contextRelativePath place spec contextRoot
    have htold : b.params.dockerfile = some name := htold.trans hname
    refine ⟨by simp [htold], ?_⟩
    rintro value ⟨⟩
    refine ⟨spec, name, rfl, hne, htold, fun hplaced => ?_⟩
    rw [← Context.name_eq_empty_iff hplaced, hname, Option.some.injEq]

/-- A client whose packager gives the same archive for every context. -/
def sameArchiveClient : Client := { credentials := none, packager := ⟨fun _ => return .bytes []⟩ }

/-- A build of a context directory with a Dockerfile. -/
def directoryBuild (dockerfile : String) : BuildRequest :=
  { options := .object [("path", .string "/ctx"), ("dockerfile", .string dockerfile)] }

/-- An absolute path to a Dockerfile in the context is told by a name that is not empty. -/
theorem name_told_for_absolute_dockerfile :
    (directoryBuild "/ctx/docker/../D").IsLocal "/ctx" ∧
      ∃ b s' name,
        (prepare sameArchiveClient (directoryBuild "/ctx/docker/../D")).run {} = (.ok b, s') ∧
        b.params.dockerfile = some name ∧ name ≠ "" := by
  have hlocal : (directoryBuild "/ctx/docker/../D").IsLocal "/ctx" := ⟨rfl, rfl, by decide⟩
  obtain ⟨b, s', hrun⟩ : ∃ b s',
      (prepare sameArchiveClient (directoryBuild "/ctx/docker/../D")).run {} = (.ok b, s') :=
    ⟨_, _, rfl⟩
  obtain ⟨spec, name, hspec, -, htold, hempty⟩ := (name_told_for_local_build hlocal hrun).2 _ rfl
  cases hspec
  refine ⟨hlocal, b, s', name, hrun, htold, fun hname => ?_⟩
  cases (hempty (.posix rfl (by decide))).1 hname with
  | empty h => exact absurd h (by decide)
  | posix _ _ hsame => exact absurd hsame (by decide)
  | drive hwindows => cases hwindows

/-- An absolute path to the context itself is told by an empty name. -/
theorem empty_name_told_for_context :
    ∃ b s', (prepare sameArchiveClient (directoryBuild "/ctx")).run {} = (.ok b, s') ∧
      b.params.dockerfile = some "" :=
  ⟨_, _, rfl, by decide⟩

end ImageBuild.Daemon
