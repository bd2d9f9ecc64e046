import ImageBuild.Proofs.Daemon.Preparation
import ImageBuild.Proofs.Archive.Packager

namespace ImageBuild.Daemon

/-!
# The order of effects — a build asks others for little, and late

What a build asks others for is the packing of its context and the answer of the daemon; everything
else that it records is told, not asked.  A build packs at most once, before it is sent
(`packing_of_prepare`), and is sent exactly when its preparation succeeds (`requests_of_build`).
-/

/-- Whether an effect asks someone for something: the packager or the daemon. -/
def isRequest : Effect → Bool
  | .pack _ | .call _ => true
  | _ => false

/-- What is asked for among effects, in order. -/
def requests (told : List Effect) : List Effect := told.filter isRequest

/-- What packs contexts makes no requests itself. -/
def Packager.IsQuiet (p : Packager) : Prop :=
  ∀ request, (p.pack request).Appends fun effect => isRequest effect = false

/-- An archiver is run without requests. -/
theorem Packager.isQuiet_ofCommand (command : String) : (Packager.ofCommand command).IsQuiet :=
  Archive.appends_pack (fun _ => rfl) command

/-- Effects of which none is a request. -/
theorem requests_eq_nil {told : List Effect} (h : ∀ effect ∈ told, isRequest effect = false) :
    requests told = [] := by
  rw [requests, List.filter_eq_nil_iff]
  intro effect heffect
  rw [h effect heffect]
  exact Bool.false_ne_true

/-- Requests are made in the order of the effects. -/
theorem requests_append (told told' : List Effect) :
    requests (told ++ told') = requests told ++ requests told' :=
  List.filter_append ..

/-! ### Sending -/

/-- The request that sends a prepared build. -/
def post (b : PreparedBuild) : Effect :=
  .call (.post Settings.buildPath b.params b.headers b.body)

/-- What is sent when a preparation has this outcome. -/
def sent : Except Failure PreparedBuild → List Effect
  | .ok b => [post b]
  | .error _ => []

/-- Sending makes one request, whether it is answered or not. -/
theorem trace_send (b : PreparedBuild) (s : Session) :
    ((send b).run s).2.trace = s.trace ++ [post b] := by
  rw [send]
  split
  · -- the stream of the body breaks off after the request has begun
    rw [Action.run_emit_bind]
    rfl
  · have hask := Action.trace_ask (.post Settings.buildPath b.params b.headers b.body) s
    rw [Action.run_bind]
    generalize (Action.ask _).run s = result at hask ⊢
    obtain ⟨outcome, s'⟩ := result
    cases outcome <;> exact hask

/-- A build is its preparation, and when that succeeds, a line that announces it and its request. -/
theorem run_build (client : Client) (r : BuildRequest) (s : Session) :
    (build client r).run s = match (prepare client r).run s with
      | (.ok b, s') => (send b).run ((Action.debug (submission b.params)).run s').2
      | (.error f, s') => (.error f, s') := by
  rw [build, Action.run_bind]
  generalize (prepare client r).run s = result
  obtain ⟨outcome, s'⟩ := result
  cases outcome with
  | error f => rfl
  | ok b =>
    simp only [Action.run_bind, Action.debug, Action.run_log]

/-- After its preparation, a build makes exactly the request that sends what is prepared. -/
theorem requests_of_build (client : Client) (r : BuildRequest) (s : Session) :
    ∃ told, ((build client r).run s).2.trace = ((prepare client r).run s).2.trace ++ told ∧
      requests told = sent ((prepare client r).run s).1 := by
  rw [run_build]
  generalize (prepare client r).run s = result
  obtain ⟨outcome, s'⟩ := result
  cases outcome with
  | error f => exact ⟨[], by simp, rfl⟩
  | ok b =>
    obtain ⟨told, htrace, htold⟩ :=
      Action.appends_debug (P := fun effect => isRequest effect = false) (fun _ => rfl)
        (submission b.params) s'
    refine ⟨told ++ [post b], ?_, ?_⟩
    · rw [trace_send, htrace, List.append_assoc]
    · rw [requests_append, requests_eq_nil htold]
      rfl

/-! ### Packing -/

/-- The context of a build is a local directory: nothing is given ready-made, and the path is not
    that of a remote context. -/
structure BuildRequest.IsLocal (r : BuildRequest) (path : String) : Prop where
  noBody : r.context = none
  hasPath : r.options.get? "path" = some (.string path)
  notRemote : Context.isRemote path = false

/-- What a build asks for before it is sent: nothing, or to pack a local directory.  When that fails
    the preparation fails. -/
inductive Packing (client : Client) (r : BuildRequest) (s : Session) : List Effect → Prop
  | nothing : Packing client r s []
  | directory {path : String} {request : PackRequest} (hlocal : r.IsLocal path)
    (hrejected : ∀ f, ((client.packager.pack request).run (s.record (.pack request))).1 = .error f →
      ((prepare client r).run s).1 = .error f) :
    Packing client r s [.pack request]

/-- The context of a build is one that the daemon fetches itself. -/
structure BuildRequest.IsRemote (r : BuildRequest) (url : String) : Prop where
  noBody : r.context = none
  hasPath : r.options.get? "path" = some (.string url)
  remote : Context.isRemote url = true

/-- The context of a build is at a place. -/
def BuildRequest.HasPlace (r : BuildRequest) : ContextPlace → Prop
  | .given body => r.context = some body
  | .remote url => r.IsRemote url
  | .directory path => r.IsLocal path

/-- A context is where it is found. -/
theorem hasPlace_of_place {r : BuildRequest} {place : ContextPlace} (h : r.place = .ok place) :
    r.HasPlace place := by
  rw [BuildRequest.place] at h
  split at h
  · cases h
  · split at h
    · rename_i hcontext
      cases h
      exact hcontext
    · cases h
    · rename_i hcontext hpath
      have hpath := (Option.filter_eq_some_iff.1 hpath).1
      split at h
      · rename_i hremote
        cases h
        exact ⟨hcontext, hpath, hremote⟩
      · rename_i hremote
        cases h
        exact ⟨hcontext, hpath, by simpa using hremote⟩
    · cases h

/-- A context is at one place only. -/
theorem BuildRequest.HasPlace.unique {r : BuildRequest} {place other : ContextPlace}
    (h : r.HasPlace place) (hother : r.HasPlace other) : place = other := by
  cases place with
  | given body =>
    have h : r.context = some body := h
    cases other with
    | given body' => rw [Option.some.inj (h.symm.trans hother)]
    | remote url => exact absurd (h.symm.trans hother.noBody) (by simp)
    | directory path => exact absurd (h.symm.trans hother.noBody) (by simp)
  | remote url =>
    cases other with
    | given body => exact absurd (h.noBody.symm.trans hother) (by simp)
    | remote url' =>
      cases h.hasPath.symm.trans hother.hasPath
      rfl
    | directory path =>
      cases h.hasPath.symm.trans hother.hasPath
      exact absurd (h.remote.symm.trans hother.notRemote) (by simp)
  | directory path =>
    cases other with
    | given body => exact absurd (h.noBody.symm.trans hother) (by simp)
    | remote url =>
      cases h.hasPath.symm.trans hother.hasPath
      exact absurd (h.notRemote.symm.trans hother.remote) (by simp)
    | directory path' =>
      cases h.hasPath.symm.trans hother.hasPath
      rfl

/-- Completing a local build packs its directory and does nothing else that asks for something. -/
theorem requests_of_complete {client : Client} (hquiet : client.packager.IsQuiet) (options : Json)
    (e : Environment) (params : Request.Params) (headers : Registry.Headers) (place : ContextPlace)
    (s : Session) :
    ∃ told, ((complete client options e params headers place).run s).2.trace = s.trace ++ told ∧
      requests told = match place with
        | .directory path => [.pack (packRequest options e path)]
        | _ => [] := by
  cases place with
  | remote url =>
    obtain ⟨told, htrace, htold⟩ :=
      (Action.appends_debug (P := fun effect => isRequest effect = false) (fun _ => rfl)
        ("Building from remote context " ++ url)).bind
        (fun _ => Action.appends_pure ({ params, headers, body := none } : PreparedBuild)) s
    exact ⟨told, htrace, requests_eq_nil htold⟩
  | given body => exact ⟨[], by simp [complete, Action.run_pure], rfl⟩
  | directory path =>
    -- the packager runs with its request recorded, and adds none of its own
    obtain ⟨told, htrace, htold⟩ :=
      (Action.Appends.bind (hquiet (packRequest options e path)) fun body =>
        Action.appends_pure
          ({ params, headers := bodyHeaders headers, body := some body } : PreparedBuild))
        (s.record (.pack (packRequest options e path)))
    refine ⟨[.pack (packRequest options e path)] ++ told, ?_, ?_⟩
    · rw [complete, Action.run_emit_bind, htrace, ← List.append_assoc]
      rfl
    · rw [requests_append, requests_eq_nil htold]
      rfl

/-- What the packager rejects is not prepared. -/
theorem complete_of_rejected {client : Client} {options : Json} {e : Environment} {path : String}
    {s : Session} {f : Failure}
    (h : ((client.packager.pack (packRequest options e path)).run
      (s.record (.pack (packRequest options e path)))).1 = .error f)
    (params : Request.Params) (headers : Registry.Headers) :
    ((complete client options e params headers (.directory path)).run s).1 = .error f := by
  rw [complete, Action.run_emit_bind, Action.run_bind]
  generalize (client.packager.pack _).run _ = result at h ⊢
  obtain ⟨outcome, s'⟩ := result
  cases h
  rfl

/-- The preparation of a build packs at most once, and only a local directory. -/
theorem packing_of_prepare {client : Client} (hquiet : client.packager.IsQuiet) (r : BuildRequest)
    (s : Session) :
    ∃ told, ((prepare client r).run s).2.trace = s.trace ++ told ∧
      Packing client r s (requests told) := by
  -- a preparation that fails its checks does nothing, and otherwise it is its completion
  have hrun := run_prepare client r s
  cases hplace : r.place with
  | error f =>
    rw [hplace] at hrun
    exact ⟨[], by simp [hrun], .nothing⟩
  | ok place =>
    cases hchecks : checks client r.options s.environment place with
    | error f =>
      simp only [hplace, hchecks] at hrun
      exact ⟨[], by simp [hrun], .nothing⟩
    | ok checked =>
      obtain ⟨params, headers⟩ := checked
      simp only [hplace, hchecks] at hrun
      obtain ⟨told, htrace, hrequests⟩ :=
        requests_of_complete hquiet r.options s.environment params headers place s
      refine ⟨told, by rw [hrun, htrace], ?_⟩
      rw [hrequests]
      cases place with
      | remote url => exact .nothing
      | given body => exact .nothing
      | directory path =>
        refine .directory (hasPlace_of_place hplace) fun f hf => ?_
        rw [hrun]
        exact complete_of_rejected hf params headers

/-! ### Refusing -/

/-- A build with a defect is refused before anything is asked for, with a client error where its
    paths are texts. -/
theorem prepare_of_defect {client : Client} {r : BuildRequest} (h : Defect client r) (s : Session) :
    ∃ f, (prepare client r).run s = (.error f, s) ∧
      (r.HasTextPaths → ∃ e, f = .client e) := by
  rw [run_prepare]
  cases hplace : r.place with
  | error f => exact ⟨f, rfl, fun htext => client_of_place htext hplace⟩
  | ok place =>
    simp only
    cases hchecks : checks client r.options s.environment place with
    | error f => exact ⟨f, rfl, fun htext => client_of_checks htext hchecks⟩
    | ok checked => exact absurd hchecks (checks_ne_ok h hplace _ _ _)

/-- **The order of effects.** A build asks for the packing of its context at most once, for a local
    directory only, and then makes exactly the request that sends what was prepared: none when the
    preparation fails, by the packager or before, and one when it succeeds, however that request
    ends.  A build with a defect asks for nothing, and where its paths are texts it is rejected with
    a client error. -/
theorem build_requests (client : Client) (hquiet : client.packager.IsQuiet) (r : BuildRequest)
    (s : Session) :
    (∃ told packed, ((build client r).run s).2.trace = s.trace ++ told ∧
      requests told = packed ++ sent ((prepare client r).run s).1 ∧
      Packing client r s packed ∧
      (Defect client r → requests told = [])) ∧
    (Defect client r → r.HasTextPaths → ∃ e, ((build client r).run s).1 = .error (.client e)) := by
  constructor
  · -- what the preparation tells, then what sending tells
    obtain ⟨told, htrace, hpacking⟩ := packing_of_prepare hquiet r s
    obtain ⟨told', htrace', hsent⟩ := requests_of_build client r s
    refine ⟨told ++ told', requests told, ?_, ?_, hpacking, fun hdefect => ?_⟩
    · rw [htrace', htrace, List.append_assoc]
    · rw [requests_append, hsent]
    · -- a refused preparation leaves the session alone, and then there is nothing to send
      obtain ⟨f, hrun, -⟩ := prepare_of_defect hdefect s
      rw [hrun] at htrace hsent
      have htold : told = [] := by simpa using htrace
      rw [requests_append, hsent, htold]
      rfl
  · intro hdefect htext
    obtain ⟨f, hrun, hclient⟩ := prepare_of_defect hdefect s
    obtain ⟨e, rfl⟩ := hclient htext
    rw [run_build, hrun]
    exact ⟨e, rfl⟩

/-- A client without credentials that runs the archiver of the system. -/
def plainClient : Client := { credentials := none, packager := .standard }

/-- A build of a directory with an empty name for its Dockerfile. -/
def namelessBuild : BuildRequest :=
  { options := .object [("path", .string "/srv/app"), ("dockerfile", .string "")] }

/-- A build of a context that the daemon fetches. -/
def remoteBuild : BuildRequest :=
  { options := .object [("path", .string "https://git.example/app.git")] }

/-- The build without a name asks for nothing, the remote one for one answer. -/
theorem nameless_refused_remote_sent :
    plainClient.packager.IsQuiet ∧
      (∃ e, ((build plainClient namelessBuild).run {}).1 = .error (.client e)) ∧
      ∃ told b, ((build plainClient remoteBuild).run {}).2.trace = told ∧
        requests told = [post b] := by
  have hquiet : plainClient.packager.IsQuiet := Packager.isQuiet_ofCommand "tar"
  have hdefect : Defect plainClient namelessBuild := .options (.dockerfile rfl (.inl rfl))
  have htext : namelessBuild.HasTextPaths := by
    constructor
    · decide
    · rintro value ⟨⟩
      rfl
    · rintro value ⟨⟩
      rfl
  refine ⟨hquiet, (build_requests plainClient hquiet namelessBuild {}).2 hdefect htext, ?_⟩
  obtain ⟨⟨told, packed, htrace, hrequests, hpacking, -⟩, -⟩ :=
    build_requests plainClient hquiet remoteBuild {}
  cases hpacking with
  | nothing => exact ⟨told, _, htrace, hrequests⟩
  | directory hlocal =>
    have hremote := hlocal.notRemote
    cases hlocal.hasPath
    exact absurd hremote (by decide)

end ImageBuild.Daemon
