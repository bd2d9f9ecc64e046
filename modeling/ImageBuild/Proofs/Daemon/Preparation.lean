import ImageBuild.Daemon.Client
import ImageBuild.Proofs.Request.Params
import ImageBuild.Proofs.Session

namespace ImageBuild.Daemon

/-!
# Preparation — all checks come before the first effect

`prepare` first finds out where the context is and makes all checks on the caller's input, which
leaves the session alone; only then it does something (`run_prepare`).  A `Defect` of what the
caller gives makes the checks fail (`checks_ne_ok`), for input of the declared kinds with a client
error (`client_of_checks`).
-/

/-! ### Checks and what follows them -/

/-- The checks of a build whose context is at a place. -/
def checks (client : Client) (options : Json) (e : Environment) :
    ContextPlace → Except Failure (Request.Params × Registry.Headers)
  | .remote url => checkBuild client options (Request.Options.dockerfile? options) (some url)
  | .given _ => checkBuild client options (Request.Options.dockerfile? options) none
  | .directory path => do
    let dockerfile ← directoryDockerfile options
    let contextRoot := Context.normalizeRoot (placeIn e) path
    let resolved := Context.resolve? (placeIn e) dockerfile contextRoot
    checkBuild client options resolved.contextRelativePath none

/-- The request to pack the context at a path. -/
def packRequest (options : Json) (e : Environment) (path : String) : PackRequest :=
  let contextRoot := Context.normalizeRoot (placeIn e) path
  { contextRoot
    resolved := Context.resolve? (placeIn e) (Request.Options.dockerfile? options) contextRoot }

/-- What a build with checked parameters and headers does to become ready. -/
def complete (client : Client) (options : Json) (e : Environment) (params : Request.Params)
    (headers : Registry.Headers) : ContextPlace → Action PreparedBuild
  | .remote url => do
    Action.debug ("Building from remote context " ++ url)
    return { params, headers, body := none }
  | .given body => return { params, headers := givenBodyHeaders options headers, body := some body }
  | .directory path => do
    Action.emit (.pack (packRequest options e path))
    let body ← client.packager.pack (packRequest options e path)
    return { params, headers := bodyHeaders headers, body := some body }

/-- The Dockerfile of a directory is the one that the options ask for. -/
theorem dockerfile?_of_directoryDockerfile {options : Json} {dockerfile : Option String}
    (h : directoryDockerfile options = .ok dockerfile) :
    Request.Options.dockerfile? options = dockerfile := by
  rw [directoryDockerfile] at h
  rw [Request.Options.dockerfile?]
  split at h <;> rename_i hvalue <;> cases h <;> rw [hvalue] <;> rfl

/-- **Checks first.** Preparing a build finds its context and checks it, and only when that succeeds
    anything happens. -/
theorem run_prepare (client : Client) (r : BuildRequest) (s : Session) :
    (prepare client r).run s = match r.place with
      | .error f => (.error f, s)
      | .ok place =>
        match checks client r.options s.environment place with
        | .error f => (.error f, s)
        | .ok (params, headers) =>
          (complete client r.options s.environment params headers place).run s := by
  rw [prepare, Action.run_bind, Action.run_ofExcept]
  cases r.place with
  | error f => rfl
  | ok place =>
    -- the places differ in what is checked, and in what is left to do then
    cases place with
    | remote url =>
      simp only [Action.run_bind, Action.run_ofExcept, checks]
      cases checkBuild client r.options (Request.Options.dockerfile? r.options) (some url) with
      | error f => rfl
      | ok checked => exact (Action.run_bind _ _ s).symm
    | given body =>
      simp only [Action.run_bind, Action.run_ofExcept, checks]
      cases checkBuild client r.options (Request.Options.dockerfile? r.options) none <;> rfl
    | directory path =>
      simp only
      rw [Action.run_get_bind]
      simp only [Action.run_bind, Action.run_ofExcept, checks]
      cases hdockerfile : directoryDockerfile r.options with
      | error f => rfl
      | ok dockerfile =>
        -- what is checked against the directory is also what is packed
        obtain rfl := dockerfile?_of_directoryDockerfile hdockerfile
        simp only [bind, Except.bind]
        cases checkBuild client r.options _ none with
        | error f => rfl
        | ok checked =>
          simp only [complete, Action.run_bind]
          rfl

/-- A build that becomes ready has been found, checked and completed. -/
theorem ok_of_prepare {client : Client} {r : BuildRequest} {s s' : Session} {b : PreparedBuild}
    (h : (prepare client r).run s = (.ok b, s')) :
    ∃ place params headers, r.place = .ok place ∧
      checks client r.options s.environment place = .ok (params, headers) ∧
      (complete client r.options s.environment params headers place).run s = (.ok b, s') := by
  rw [run_prepare] at h
  cases hplace : r.place with
  | error f =>
    rw [hplace] at h
    cases h
  | ok place =>
    cases hchecks : checks client r.options s.environment place with
    | error f =>
      simp only [hplace, hchecks] at h
      cases h
    | ok checked =>
      simp only [hplace, hchecks] at h
      exact ⟨place, checked.1, checked.2, rfl, hchecks, h⟩

/-! ### Defects -/

/-- A defect of what is given for a build. -/
inductive Defect (client : Client) (r : BuildRequest) : Prop
  /-- There is neither a ready-made context nor a path to one. -/
  | context (hcontext : r.context = none)
    (hpath : (r.options.get? "path").filter Json.isPresent = none)
  /-- The options have a defect, the Dockerfile and the tag among them. -/
  | options (h : Request.OptionDefect r.options)
  /-- There are credentials to send, and they cannot be encoded. -/
  | credentials {source : Registry.Source} {e : ClientError}
    (h : credentialsFor client r.options = some source) (hsome : source.isEmpty = false)
    (hencode : Registry.encode source = .error e)

/-- The paths in the options of a build are texts, where there are any. -/
structure BuildRequest.HasTextPaths (r : BuildRequest) : Prop where
  options : r.options.kind ≠ .null
  path : ∀ value, r.options.get? "path" = some value → value.kind = .string
  dockerfile : Request.HasTextDockerfile r.options

/-- A checked build has parameters, and headers for the credentials that are sent with it. -/
theorem parts_of_checkBuild {client : Client} {options : Json} {dockerfile remote : Option String}
    {params : Request.Params} {headers : Registry.Headers}
    (h : checkBuild client options dockerfile remote = .ok (params, headers)) :
    Request.paramsOf options dockerfile remote = .ok params ∧
      Registry.attach [] (credentialsFor client options) = .ok headers := by
  obtain ⟨p, hparams, h⟩ := ok_of_bind h
  cases hattach : Registry.attach [] (credentialsFor client options) with
  | error e =>
    rw [hattach] at h
    cases h
  | ok attached =>
    rw [hattach] at h
    cases h
    exact ⟨hparams, rfl⟩

/-- Wherever the context of a build is, it is checked with some Dockerfile. -/
theorem checkBuild_of_checks {client : Client} {options : Json} {e : Environment}
    {place : ContextPlace} {params : Request.Params} {headers : Registry.Headers}
    (h : checks client options e place = .ok (params, headers)) :
    ∃ dockerfile remote, checkBuild client options dockerfile remote = .ok (params, headers) := by
  cases place with
  | remote url => exact ⟨_, _, h⟩
  | given body => exact ⟨_, _, h⟩
  | directory path =>
    obtain ⟨dockerfile, -, h⟩ := ok_of_bind h
    exact ⟨_, _, h⟩

/-- Credentials that cannot be encoded are not attached. -/
theorem attach_of_encode_error {source : Registry.Source} {e : ClientError}
    (hsome : source.isEmpty = false) (hencode : Registry.encode source = .error e)
    (headers : Registry.Headers) : Registry.attach headers (some source) = .error e := by
  simp [Registry.attach, hsome, hencode, bind, Except.bind]

/-- A build with a defect does not pass its checks. -/
theorem checks_ne_ok {client : Client} {r : BuildRequest} (h : Defect client r)
    {place : ContextPlace} (hplace : r.place = .ok place) (e : Environment)
    (params : Request.Params) (headers : Registry.Headers) :
    checks client r.options e place ≠ .ok (params, headers) := by
  intro hok
  obtain ⟨dockerfile, remote, hok⟩ := checkBuild_of_checks hok
  -- each kind of defect contradicts one of the parts that a passed check has
  obtain ⟨hparams, hattach⟩ := parts_of_checkBuild hok
  cases h with
  | context hcontext hpath =>
    rw [BuildRequest.place, hcontext, hpath] at hplace
    split at hplace <;> cases hplace
  | options hdefect => exact Request.paramsOf_ne_ok hdefect _ _ _ hparams
  | credentials hsource hsome hencode =>
    rw [hsource, attach_of_encode_error hsome hencode] at hattach
    cases hattach

/-! ### Client errors -/

/-- Where the context cannot be found by a path that is a text, that is a client error. -/
theorem client_of_place {r : BuildRequest} (htext : r.HasTextPaths) {f : Failure}
    (h : r.place = .error f) : ∃ e, f = .client e := by
  rw [BuildRequest.place, if_neg htext.options] at h
  split at h
  · cases h
  · cases h
    exact ⟨_, rfl⟩
  · cases h
  · rename_i value hstring _ hpath
    have hvalue := (Option.filter_eq_some_iff.1 hpath).1
    cases value with
    | string path => exact (hstring path rfl).elim
    | _ => exact absurd (htext.path _ hvalue) (by simp [Json.kind])

/-- A failed check of a build whose paths are texts is a client error. -/
theorem client_of_checkBuild {client : Client} {r : BuildRequest} (htext : r.HasTextPaths)
    {dockerfile remote : Option String} {f : Failure}
    (h : checkBuild client r.options dockerfile remote = .error f) : ∃ e, f = .client e := by
  rcases error_of_bind h with hparams | ⟨params, -, h⟩
  · exact Request.client_of_paramsOf htext.options htext.dockerfile hparams
  · split at h
    · cases h
    · cases h
      exact ⟨_, rfl⟩

/-- A Dockerfile that is a text is always found. -/
theorem directoryDockerfile_ne_error {options : Json} (htext : Request.HasTextDockerfile options)
    (f : Failure) : directoryDockerfile options ≠ .error f := by
  intro h
  rw [directoryDockerfile] at h
  split at h
  · cases h
  · cases h
  · cases h
  · rename_i value hnull hstring hvalue
    cases value with
    | string dockerfile => exact (hstring dockerfile rfl).elim
    | _ => exact absurd (htext _ hvalue) (by simp [Json.kind])

/-- Checks that a build fails whose paths are texts end with a client error. -/
theorem client_of_checks {client : Client} {r : BuildRequest} (htext : r.HasTextPaths)
    {e : Environment} {place : ContextPlace} {f : Failure}
    (h : checks client r.options e place = .error f) : ∃ e, f = .client e := by
  cases place with
  | remote url => exact client_of_checkBuild htext h
  | given body => exact client_of_checkBuild htext h
  | directory path =>
    rcases error_of_bind h with hdockerfile | ⟨dockerfile, -, h⟩
    · exact absurd hdockerfile (directoryDockerfile_ne_error htext.dockerfile f)
    · exact client_of_checkBuild htext h

end ImageBuild.Daemon
