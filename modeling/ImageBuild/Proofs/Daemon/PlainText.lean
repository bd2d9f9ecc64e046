import ImageBuild.Proofs.Daemon.Headers

namespace ImageBuild.Daemon

open ImageBuild.Registry

/-!
# Plain text — credentials that leave the machine, and the warning about it

Whether credentials may travel in plain text to another machine is looked at once, when a client is
made, while each build chooses the credentials that it sends.  A client with credentials of its own
therefore warns before anything is sent (`run_create`).  What a client without credentials sends are
those that a build brings along (`credentials_of_post`), and nothing warns of these
(`own_credentials_unannounced`).
-/

/-- Builds one after the other; one that fails is passed over. -/
def Client.buildAll (client : Client) (requests : List BuildRequest) : Action Unit :=
  requests.forM fun r => do
    let _ ← Action.outcome (build client r)
    return ()

/-- A client is made and asked for builds one after the other. -/
def buildWith (o : ClientOptions) (requests : List BuildRequest) : Action Unit := do
  let client ← Client.create o
  client.buildAll requests

/-- Whether an effect sends credentials to the daemon. -/
def sendsCredentials : Effect → Bool
  | .call (.post _ _ headers _) => headers.has headerName
  | _ => false

/-- Requests to an endpoint travel in plain text to another machine: not through a local socket, to
    an `http://` address whose host is neither `localhost` nor `127.0.0.1`.  Hosts are read as strictly
    as the URL Standard has it (`DomainName.inAscii?`).  Readers of addresses that are in use let some
    more of them pass, with a label whose characters run in both directions or an `xn--` label that is
    not the form of any other; nothing is said about such a host, as none is read here. -/
structure Endpoint.IsPlainTo (e : Endpoint) (host : Host) : Prop where
  noSocket : e.isSocket = false
  address : ∃ rest, e.baseUrl.toList = plainMark.toList ++ rest ∧ hostOf? rest = some host
  notLocal : host ≠ .name "localhost".toList ∧ host ≠ .ipv4 0x7F000001

/-! ### Making a client -/

/-- A word at the front of a text is what stands before the rest. -/
theorem dropWord?_append (word rest : List Char) : Text.dropWord? word (word ++ rest) = some rest := by
  induction word with
  | nil => rfl
  | cons c word ih => simpa [Text.dropWord?] using ih

/-- An endpoint that is reached in plain text on another machine is exposed. -/
theorem isExposed_of_isPlainTo {e : Endpoint} {host : Host} (h : e.IsPlainTo host) :
    e.isExposed = .ok true := by
  obtain ⟨rest, hurl, hhost⟩ := h.address
  have hlocal : host.isLocal = false := by
    cases host with
    | name value => simpa [Host.isLocal] using h.notLocal.1
    | ipv4 value => simpa [Host.isLocal] using h.notLocal.2
    | ipv6 value => rfl
  rw [Endpoint.isExposed, after?, hurl, dropWord?_append]
  simp [h.noSocket, hhost, hlocal]

/-- The warning is not only for debugging. -/
theorem isShown_plainTextWarning (verbose : Bool) : plainTextWarning.isShown verbose = true :=
  Bool.or_true verbose

/-- Making a client tells the warning where its endpoint is exposed and there are credentials, and
    then connects. -/
theorem run_create {o : ClientOptions} {s : Session} {e : Endpoint}
    (hendpoint : Endpoint.ofHost? (o.host.getD (Settings.dockerHost s.environment)) = .ok e)
    {exposed : Bool} (hexposed : e.isExposed = .ok exposed) :
    ∃ connection, (Client.create o).run s =
      (.ok { credentials := o.credentials, packager := o.packager },
        (if exposed && o.credentials.any Source.isPresent then s.record (.log plainTextWarning)
          else s).record (.connect connection)) := by
  rw [Client.create, Action.run_get_bind, hendpoint]
  simp only [Action.run_bind, Action.run_ofExcept, hexposed]
  cases exposed && o.credentials.any Source.isPresent with
  | true =>
    rw [if_pos rfl, if_pos rfl, Action.run_bind, Action.run_log, if_pos (isShown_plainTextWarning _)]
    exact ⟨_, rfl⟩
  | false =>
    rw [if_neg Bool.false_ne_true, if_neg Bool.false_ne_true]
    exact ⟨_, rfl⟩

/-! ### Builds and their credentials -/

/-- What is not given counts as nothing to send. -/
theorem isEmpty_of_not_isPresent {source : Source} (h : source.isPresent = false) :
    source.isEmpty = true := by
  cases source with
  | entries own fallback => cases h
  | other value =>
    cases value with
    | array items => cases h
    | string text => simpa [Source.isPresent, Json.isPresent, Source.isEmpty] using h
    | _ => rfl

/-- What a build sends credentials with is the request that sends what was prepared. -/
theorem exists_prepare_of_sendsCredentials {client : Client} (hquiet : client.packager.IsQuiet)
    (r : BuildRequest) (s : Session) :
    ∃ told, ((build client r).run s).2.trace = s.trace ++ told ∧
      ∀ effect ∈ told, sendsCredentials effect = true →
        ∃ b s', (prepare client r).run s = (.ok b, s') ∧ b.headers.has headerName = true := by
  obtain ⟨told, htrace, hpacking⟩ := packing_of_prepare hquiet r s
  obtain ⟨told', htrace', hsent⟩ := requests_of_build client r s
  refine ⟨told ++ told', by rw [htrace', htrace, List.append_assoc], fun effect heffect hsends => ?_⟩
  have hrequest : isRequest effect = true := by
    cases effect <;> simp_all [sendsCredentials, isRequest]
  rcases List.mem_append.1 heffect with hprepared | hbuilt
  · -- until the build is ready there is only the request to pack
    have hpacked : effect ∈ requests told := List.mem_filter.2 ⟨hprepared, hrequest⟩
    generalize requests told = packed at hpacking hpacked
    cases hpacking with
    | nothing => cases hpacked
    | directory =>
      obtain rfl := List.mem_singleton.1 hpacked
      cases hsends
  · have hpost : effect ∈ requests told' := List.mem_filter.2 ⟨hbuilt, hrequest⟩
    rw [hsent] at hpost
    cases hprepare : (prepare client r).run s with
    | mk outcome s' =>
      rw [hprepare] at hpost
      cases outcome with
      | error f => cases hpost
      | ok b =>
        obtain rfl := List.mem_singleton.1 hpost
        exact ⟨b, s', rfl, hsends⟩

/-- A prepared build with a header for credentials has some to send. -/
theorem credentials_of_post {client : Client} {r : BuildRequest} {s s' : Session} {b : PreparedBuild}
    (h : (prepare client r).run s = (.ok b, s')) (hheader : b.headers.has headerName = true) :
    ∃ source, credentialsFor client r.options = some source ∧ source.isEmpty = false := by
  obtain ⟨place, params, headers, -, hchecks, hcomplete⟩ := ok_of_prepare h
  obtain ⟨-, hheaders, -⟩ := parts_of_complete hcomplete
  have hattached : headers.get? headerName ≠ none := by
    rw [hheaders, Members.has, get?_headersWith_headerName] at hheader
    exact Option.isSome_iff_ne_none.1 hheader
  rcases attach_eq_ok (attach_of_checks hchecks) with ⟨-, rfl⟩ | ⟨source, -, hsource, hsome, -, -⟩
  · exact absurd rfl hattached
  · exact ⟨source, hsource, hsome⟩

/-- Whatever comes of an action, it appends what it did before. -/
theorem appends_outcome {α : Type} {P : Effect → Prop} {action : Action α}
    (h : action.Appends P) : (Action.outcome action).Appends P := h

/-- Builds one after the other send credentials only where one of them has some to send. -/
theorem appends_buildAll {client : Client} (hquiet : client.packager.IsQuiet)
    {requests queue : List BuildRequest} (hqueue : ∀ r ∈ queue, r ∈ requests) :
    (client.buildAll queue).Appends fun effect => sendsCredentials effect = true →
      ∃ r ∈ requests, ∃ source, credentialsFor client r.options = some source ∧
        source.isEmpty = false := by
  induction queue with
  | nil => exact Action.appends_pure ()
  | cons r queue ih =>
    have hbuild : (build client r).Appends fun effect => sendsCredentials effect = true →
        ∃ r ∈ requests, ∃ source, credentialsFor client r.options = some source ∧
          source.isEmpty = false := by
      intro s
      obtain ⟨told, htrace, htold⟩ := exists_prepare_of_sendsCredentials hquiet r s
      refine ⟨told, htrace, fun effect heffect hsends => ?_⟩
      obtain ⟨b, s', hprepare, hheader⟩ := htold effect heffect hsends
      exact ⟨r, hqueue r (by simp), credentials_of_post hprepare hheader⟩
    have hrest := ih fun other hother => hqueue other (by simp [hother])
    exact ((appends_outcome hbuild).bind fun _ => Action.appends_pure ()).bind fun _ => hrest

/-! ### Whole runs -/

/-- Making a client for an endpoint in plain text and building with it: the client warns first where
    it has credentials, and then it connects and builds. -/
theorem trace_buildWith {o : ClientOptions} (hquiet : o.packager.IsQuiet)
    (queue : List BuildRequest) {s : Session} {e : Endpoint}
    (hendpoint : Endpoint.ofHost? (o.host.getD (Settings.dockerHost s.environment)) = .ok e)
    (hexposed : e.isExposed = .ok true) :
    ∃ connection told, ((buildWith o queue).run s).2.trace = s.trace ++
        ((if o.credentials.any Source.isPresent then [.log plainTextWarning] else []) ++
          .connect connection :: told) ∧
      ∀ effect ∈ told, sendsCredentials effect = true → ∃ r ∈ queue, ∃ source,
        credentialsFor { credentials := o.credentials, packager := o.packager } r.options =
          some source ∧ source.isEmpty = false := by
  obtain ⟨connection, hcreate⟩ := run_create hendpoint hexposed
  generalize hstart : Session.record _ (.connect connection) = start at hcreate
  have hclient : (Client.mk o.credentials o.packager).packager.IsQuiet := hquiet
  obtain ⟨told, htrace, htold⟩ := appends_buildAll hclient (fun r (hr : r ∈ queue) => hr) start
  refine ⟨connection, told, ?_, htold⟩
  rw [buildWith, Action.run_bind, hcreate]
  dsimp only
  rw [htrace, ← hstart]
  cases o.credentials.any Source.isPresent <;> simp [Session.record]

/-- **Plain text.** A client is made for an endpoint that is reached in plain text on another machine,
    and builds one after the other.  Whenever it sends credentials, the warning has been told before,
    unless the client was made without any: then those that it sends were given for a build. -/
theorem warned_before_client_credentials (o : ClientOptions) (hquiet : o.packager.IsQuiet)
    (queue : List BuildRequest) (s : Session) (e : Endpoint) (host : Host)
    (hendpoint : Endpoint.ofHost? (o.host.getD (Settings.dockerHost s.environment)) = .ok e)
    (hplain : e.IsPlainTo host) :
    ∃ told, ((buildWith o queue).run s).2.trace = s.trace ++ told ∧
      ∀ before effect after, told = before ++ effect :: after → sendsCredentials effect = true →
        .log plainTextWarning ∈ before ∨
          (o.credentials.any Source.isPresent = false ∧
            ∃ r ∈ queue, ∃ own, r.options.get? "authConfigs" = some own ∧ own ≠ .null) := by
  obtain ⟨connection, told, htrace, htold⟩ :=
    trace_buildWith hquiet queue hendpoint (isExposed_of_isPlainTo hplain)
  refine ⟨_, htrace, fun before effect after hsplit hsends => ?_⟩
  cases hpresent : o.credentials.any Source.isPresent with
  | true =>
    -- the warning is the very first effect, and it sends nothing itself
    rw [hpresent, if_pos rfl] at hsplit
    cases before with
    | nil =>
      cases hsplit
      cases hsends
    | cons first rest =>
      obtain ⟨rfl, -⟩ := List.cons.inj hsplit
      exact .inl (by simp)
  | false =>
    rw [hpresent, if_neg Bool.false_ne_true] at hsplit
    have heffect : effect ∈ told := by
      have hmem : effect ∈ .connect connection :: told := by
        rw [← List.nil_append (.connect connection :: told), hsplit]
        simp
      rcases List.mem_cons.1 hmem with rfl | hmem
      · cases hsends
      · exact hmem
    obtain ⟨r, hr, source, hsource, hsome⟩ := htold effect heffect hsends
    refine .inr ⟨rfl, r, hr, ?_⟩
    -- without credentials of its own, the build would have those of the client, and they are none
    by_contra hown
    have hnone : ∀ own, r.options.get? "authConfigs" = some own → own = .null := by
      simpa using hown
    rw [credentialsFor_of_none _ hnone] at hsource
    have hsource : o.credentials = some source := hsource
    rw [hsource, Option.any_some] at hpresent
    rw [isEmpty_of_not_isPresent hpresent] at hsome
    cases hsome

/-- A client with credentials for a daemon on another machine. -/
def exposedClient : ClientOptions :=
  { host := some "tcp://10.0.0.5:2375"
    credentials := some (.ofJson (.object [("r.example", .object [("username", .string "u")])])) }

/-- A client without credentials for the same daemon. -/
def bareClient : ClientOptions := { host := some "tcp://10.0.0.5:2375" }

/-- A build of a context that is given. -/
def givenBuild : BuildRequest := { options := .object [], context := some (.bytes [1]) }

/-- A build of a context that is given, with credentials of its own. -/
def ownBuild : BuildRequest :=
  { options := .object
      [("authConfigs", .object [("r.example", .object [("username", .string "u")])])]
    context := some (.bytes [1]) }

/-- The daemon of these clients. -/
def exposedEndpoint : Endpoint := ⟨"http://10.0.0.5:2375", none⟩

/-- The daemon of these clients is reached in plain text on another machine. -/
theorem isPlainTo_exposedEndpoint : exposedEndpoint.IsPlainTo (.ipv4 0x0A000005) :=
  ⟨rfl, ⟨"10.0.0.5:2375".toList, by decide, by decide +kernel⟩, by decide, by decide⟩

/-- The client with credentials has told the warning when it sends them. -/
theorem exposed_client_warns :
    exposedClient.packager.IsQuiet ∧
    Endpoint.ofHost? (exposedClient.host.getD (Settings.dockerHost {})) = .ok exposedEndpoint ∧
    exposedEndpoint.IsPlainTo (.ipv4 0x0A000005) ∧
    ∃ before effect after,
      ((buildWith exposedClient [givenBuild]).run {}).2.trace = before ++ effect :: after ∧
      sendsCredentials effect = true ∧ .log plainTextWarning ∈ before := by
  have hquiet : exposedClient.packager.IsQuiet := Packager.isQuiet_ofCommand "tar"
  have hendpoint : Endpoint.ofHost? (exposedClient.host.getD (Settings.dockerHost {})) =
      .ok exposedEndpoint := by rfl
  refine ⟨hquiet, hendpoint, isPlainTo_exposedEndpoint, ?_⟩
  obtain ⟨told, htrace, htold⟩ := warned_before_client_credentials exposedClient hquiet [givenBuild] {}
    exposedEndpoint _ hendpoint isPlainTo_exposedEndpoint
  have hsends : ((buildWith exposedClient [givenBuild]).run {}).2.trace.any sendsCredentials = true := by
    decide +kernel
  obtain ⟨effect, heffect, hsends⟩ := List.any_eq_true.1 hsends
  obtain ⟨before, after, hsplit⟩ := List.append_of_mem heffect
  have htold' : told = before ++ effect :: after := by rw [← hsplit, htrace]; rfl
  rcases htold before effect after htold' hsends with hwarned | ⟨hnone, -⟩
  · exact ⟨before, effect, after, hsplit, hsends, hwarned⟩
  · exact absurd hnone (by decide)

/-- The client without credentials sends those of a build, and the warning is not told. -/
theorem own_credentials_unannounced :
    Endpoint.ofHost? (bareClient.host.getD (Settings.dockerHost {})) = .ok exposedEndpoint ∧
    exposedEndpoint.IsPlainTo (.ipv4 0x0A000005) ∧
    (∃ effect ∈ ((buildWith bareClient [ownBuild]).run {}).2.trace,
      sendsCredentials effect = true) ∧
    .log plainTextWarning ∉ ((buildWith bareClient [ownBuild]).run {}).2.trace := by
  refine ⟨rfl, isPlainTo_exposedEndpoint, List.any_eq_true.1 ?_, fun hwarned => ?_⟩
  · decide +kernel
  · -- not even one line is told
    have hsilent : ((buildWith bareClient [ownBuild]).run {}).2.trace.any
        (fun effect => match effect with | .log _ => true | _ => false) = false := by decide +kernel
    rw [List.any_eq_false] at hsilent
    exact hsilent _ hwarned rfl

end ImageBuild.Daemon
