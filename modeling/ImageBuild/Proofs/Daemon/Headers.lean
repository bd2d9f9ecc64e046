import ImageBuild.Proofs.Daemon.EffectOrder
import ImageBuild.Proofs.Registry.Attached

namespace ImageBuild.Daemon

open ImageBuild.Registry

/-!
# Headers and body — what a prepared build sends, by where its context is

A build that becomes ready has been checked first and completed then (`ok_of_prepare`).  The checks
leave headers with nothing but the credentials, and completing adds the headers that describe the
body (`headersWith`).  So the place of the context alone decides about the other headers and the body,
and the credentials are those of one source, never of two (`prepared_headers_and_body`).
-/

/-! ### Headers for the body -/

/-- The encoding that the context of a build is compressed with, where it has to be told: not that of
    no compression at all. -/
def sentEncoding? (options : Json) : Option Json :=
  match (options.get? "encoding").filter Json.isPresent with
  | none | some (.string "identity") => none
  | some encoding => some encoding

/-- The encoding that is told is the one in the options. -/
theorem sentEncoding?_eq_some_iff (options value : Json) :
    sentEncoding? options = some value ↔
      options.get? "encoding" = some value ∧ value.isPresent = true ∧ value ≠ .string "identity" := by
  have hfilter : ∀ v, (options.get? "encoding").filter Json.isPresent = some v ↔
      options.get? "encoding" = some v ∧ v.isPresent = true := fun v => Option.filter_eq_some_iff
  rw [sentEncoding?, ← and_assoc, ← hfilter]
  generalize (options.get? "encoding").filter Json.isPresent = given
  split
  · simp
  · simp +contextual [eq_comm]
  · rename_i encoding hencoding
    constructor
    · rintro ⟨⟩
      exact ⟨rfl, fun heq => hencoding (heq ▸ rfl)⟩
    · exact fun h => h.1

/-- The headers of a build, when the checks have left `headers`. -/
def headersWith (options : Json) (headers : Headers) : ContextPlace → Headers
  | .remote _ => headers
  | .given _ => givenBodyHeaders options headers
  | .directory _ => bodyHeaders headers

/-- A body is described by its type. -/
theorem get?_bodyHeaders (headers : Headers) (name : String) :
    (bodyHeaders headers).get? name =
      if name = "Content-Type" then some (.string "application/tar") else headers.get? name :=
  Members.get?_insert headers "Content-Type" _ name

/-- A body that is given is described by its type and, where that has to be told, its encoding. -/
theorem givenBodyHeaders_eq (options : Json) (headers : Headers) :
    givenBodyHeaders options headers =
      match sentEncoding? options with
      | none => bodyHeaders headers
      | some encoding => (bodyHeaders headers).insert "Content-Encoding" encoding := by
  rw [givenBodyHeaders, sentEncoding?]
  generalize (options.get? "encoding").filter Json.isPresent = given
  rcases given with - | encoding
  · rfl
  · by_cases hidentity : encoding = .string "identity"
    · subst hidentity
      rfl
    · split
      · contradiction
      · simp_all
      · rename_i hne heq
        cases heq
        split <;> simp_all [contentEncoding]

/-- The headers describe the body of a build: its type unless the daemon fetches the context, the
    encoding of a context that is given with one other than `identity`, and nothing else, the
    credentials apart. -/
structure DescribesBody (r : BuildRequest) (headers : Headers) : Prop where
  type_of_remote : ∀ url, r.IsRemote url → headers.get? "Content-Type" = none
  type_of_body : (∀ url, ¬ r.IsRemote url) →
    headers.get? "Content-Type" = some (.string "application/tar")
  encoding_iff : ∀ value, headers.get? "Content-Encoding" = some value ↔
    r.context.isSome = true ∧ r.options.get? "encoding" = some value ∧ value.isPresent = true ∧
      value ≠ .string "identity"
  others : ∀ name ∈ headers.names,
    name = headerName ∨ name = "Content-Type" ∨ name = "Content-Encoding"

/-- What stands under a name in the headers of a build: the type and the encoding of its body, and
    else what the checks have left there. -/
theorem get?_headersWith (options : Json) (headers : Headers) (place : ContextPlace) (name : String) :
    (headersWith options headers place).get? name =
      match place with
      | .remote _ => headers.get? name
      | .directory _ =>
        if name = "Content-Type" then some (.string "application/tar") else headers.get? name
      | .given _ =>
        if name = "Content-Type" then some (.string "application/tar")
        else if name = "Content-Encoding" then (sentEncoding? options).or (headers.get? name)
        else headers.get? name := by
  cases place with
  | remote url => rfl
  | directory path => exact get?_bodyHeaders headers name
  | given body =>
    rw [headersWith, givenBodyHeaders_eq]
    cases hencoding : sentEncoding? options with
    | none =>
      simp [get?_bodyHeaders]
    | some encoding =>
      simp only [Members.get?_insert, get?_bodyHeaders]
      by_cases htype : name = "Content-Type" <;> simp [htype]

/-- The headers for the body leave the credentials alone. -/
theorem get?_headersWith_headerName (options : Json) (headers : Headers) (place : ContextPlace) :
    (headersWith options headers place).get? headerName = headers.get? headerName := by
  rw [get?_headersWith]
  cases place <;> rfl

/-- Where nothing but credentials was attached before, the headers of a build describe its body. -/
theorem describesBody_headersWith {r : BuildRequest} {place : ContextPlace} (hplace : r.HasPlace place)
    {headers : Headers} (hnone : ∀ name, name ≠ headerName → headers.get? name = none) :
    DescribesBody r (headersWith r.options headers place) := by
  have htype : headers.get? "Content-Type" = none := hnone _ (by decide)
  have hencoding : headers.get? "Content-Encoding" = none := hnone _ (by decide)
  have hremote : ∀ url, r.IsRemote url ↔ place = .remote url := fun url =>
    ⟨fun h => hplace.unique h, fun h => by rw [h] at hplace; exact hplace⟩
  refine ⟨fun url hurl => ?_, fun hbody => ?_, fun value => ?_, fun name hname => ?_⟩
  · rw [get?_headersWith, (hremote url).1 hurl]
    exact htype
  · rw [get?_headersWith]
    cases place with
    | remote url => exact absurd hplace (hbody url)
    | directory path | given body => rfl
  · rw [get?_headersWith, ← sentEncoding?_eq_some_iff]
    cases place with
    | remote url => simp [hencoding, show r.context = none from hplace.noBody]
    | directory path => simp [hencoding, show r.context = none from hplace.noBody]
    | given body => simp [hencoding, show r.context = some body from hplace]
  · by_contra hother
    rw [not_or, not_or] at hother
    have hget : (headersWith r.options headers place).get? name = none := by
      rw [get?_headersWith]
      cases place <;> simp [hother, hnone name hother.1]
    rw [← Members.has_iff_mem_names, Members.has, hget] at hname
    cases hname

/-! ### Completing -/

/-- A build that is completed has the checked parameters, the headers for its place, and the body
    that is there: none for a remote context, the one that is given, or what the packager makes. -/
theorem parts_of_complete {client : Client} {options : Json} {e : Environment}
    {params : Request.Params} {headers : Headers} {place : ContextPlace} {s s' : Session}
    {b : PreparedBuild} (h : (complete client options e params headers place).run s = (.ok b, s')) :
    b.params = params ∧ b.headers = headersWith options headers place ∧
      match place with
      | .remote _ => b.body = none
      | .given body => b.body = some body
      | .directory path => ∃ body,
        (client.packager.pack (packRequest options e path)).run
          (s.record (.pack (packRequest options e path))) = (.ok body, s') ∧ b.body = some body := by
  cases place with
  | remote url =>
    rw [complete, Action.debug, Action.run_bind, Action.run_log] at h
    cases h
    exact ⟨rfl, rfl, rfl⟩
  | given body =>
    cases h
    exact ⟨rfl, rfl, rfl⟩
  | directory path =>
    rw [complete, Action.run_emit_bind] at h
    obtain ⟨body, s₁, hpack, h⟩ := Action.ok_of_run_bind h
    cases h
    exact ⟨rfl, rfl, body, hpack, rfl⟩

/-- The checks of a build give parameters with the remote context, if there is one. -/
theorem remote_of_checks {client : Client} {options : Json} {e : Environment} {place : ContextPlace}
    {params : Request.Params} {headers : Headers}
    (h : checks client options e place = .ok (params, headers)) :
    params.remote = match place with
      | .remote url => some url
      | _ => none := by
  cases place with
  | remote url | given body => exact Request.remote_of_paramsOf (parts_of_checkBuild h).1
  | directory path =>
    obtain ⟨dockerfile, -, h⟩ := ok_of_bind h
    exact Request.remote_of_paramsOf (parts_of_checkBuild h).1

/-- The checks of a build attach the credentials that are sent with it, and nothing else. -/
theorem attach_of_checks {client : Client} {options : Json} {e : Environment} {place : ContextPlace}
    {params : Request.Params} {headers : Headers}
    (h : checks client options e place = .ok (params, headers)) :
    attach [] (credentialsFor client options) = .ok headers := by
  obtain ⟨dockerfile, remote, h⟩ := checkBuild_of_checks h
  exact (parts_of_checkBuild h).2

/-- A build has its own credentials, where they are given. -/
theorem credentialsFor_of_own (client : Client) {options own : Json}
    (hgiven : options.get? "authConfigs" = some own) (hsome : own ≠ .null) :
    credentialsFor client options = some (.ofJson own) := by
  rw [credentialsFor, hgiven]
  cases own <;> trivial

/-- A build has the credentials of the client, where it is given none. -/
theorem credentialsFor_of_none (client : Client) {options : Json}
    (hnone : ∀ own, options.get? "authConfigs" = some own → own = .null) :
    credentialsFor client options = client.credentials := by
  rw [credentialsFor]
  cases hgiven : options.get? "authConfigs" with
  | none => rfl
  | some own =>
    obtain rfl := hnone own hgiven
    rfl

/-- The body of a prepared build, by where its context is: none for a context that the daemon fetches,
    a context that is given itself, and else what the packager makes of the directory. -/
structure PreparedBuild.HasBodyFor (b : PreparedBuild) (client : Client) (r : BuildRequest)
    (s s' : Session) : Prop where
  remote : ∀ url, r.IsRemote url → b.body = none
  given : ∀ body, r.context = some body → b.body = some body
  directory : ∀ path, r.IsLocal path → ∃ body,
    (client.packager.pack (packRequest r.options s.environment path)).run
      (s.record (.pack (packRequest r.options s.environment path))) = (.ok body, s') ∧
    b.body = some body

/-- **Headers and body.** A build that becomes ready sends the credentials of one source: its own
    where it has some, even if they list no registry, and else those of the client.  They are in the
    headers exactly when a registry is listed, and the daemon reads back what was given.  All other
    headers describe the body, which is what the place of the context says, and the context that the
    daemon fetches is named exactly when there is one. -/
theorem prepared_headers_and_body {client : Client} {r : BuildRequest}
    (hclient : ∀ source, client.credentials = some source → source.HasPlainNames)
    (hown : ∀ value, r.options.get? "authConfigs" = some value → (Source.ofJson value).HasPlainNames)
    {s s' : Session} {b : PreparedBuild} (h : (prepare client r).run s = (.ok b, s')) :
    (∀ own, r.options.get? "authConfigs" = some own → own ≠ .null →
      Carries b.headers (some (.ofJson own))) ∧
    ((∀ own, r.options.get? "authConfigs" = some own → own = .null) →
      Carries b.headers client.credentials) ∧
    DescribesBody r b.headers ∧ b.HasBodyFor client r s s' ∧
    (∀ url, b.params.remote = some url ↔ r.IsRemote url) ∧
    ∃ place, r.HasPlace place := by
  obtain ⟨place, params, headers, hplace, hchecks, hcomplete⟩ := ok_of_prepare h
  have hplace := hasPlace_of_place hplace
  have hattach := attach_of_checks hchecks
  obtain ⟨rfl, hheaders, hbody⟩ := parts_of_complete hcomplete
  have hcarries : ∀ source, credentialsFor client r.options = source →
      (∀ given, source = some given → given.HasPlainNames) → Carries b.headers source := by
    rintro source rfl hnames
    refine (carries_of_attach rfl hnames hattach).congr ?_
    rw [hheaders, get?_headersWith_headerName]
  refine ⟨fun own hgiven hsome => ?_, fun hnone => ?_, ?_, ⟨?_, ?_, ?_⟩, fun url => ?_, place, hplace⟩
  · refine hcarries _ (credentialsFor_of_own client hgiven hsome) fun given hsource => ?_
    exact Option.some.inj hsource ▸ hown own hgiven
  · exact hcarries _ (credentialsFor_of_none client hnone) hclient
  · rw [hheaders]
    exact describesBody_headersWith hplace fun name hname => get?_of_attach hattach hname
  · intro url hurl
    obtain rfl : place = .remote url := hplace.unique hurl
    exact hbody
  · intro body hcontext
    obtain rfl : place = .given body := hplace.unique hcontext
    exact hbody
  · intro path hlocal
    obtain rfl : place = .directory path := hplace.unique hlocal
    exact hbody
  · rw [remote_of_checks hchecks]
    constructor
    · intro hurl
      cases place with
      | remote other =>
        cases hurl
        exact hplace
      | given | directory => cases hurl
    · intro hurl
      obtain rfl : place = .remote url := hplace.unique hurl
      rfl

/-- A client with credentials for one registry. -/
def loggedInClient : Client :=
  { credentials := some (.ofJson (.object [("hub.example", .object [("identitytoken", .string "t")])]))
    packager := .standard }

/-- A build of a compressed context that is given next to a remote one, with credentials for another
    registry. -/
def compressedBuild : BuildRequest :=
  { options := .object
      [("path", .string "https://git.example/app.git"), ("encoding", .string "gzip"),
        ("authConfigs", .object [("own.example", .object [("username", .string "u")])])]
    context := some (.bytes [31, 139]) }

/-- The given context is sent with its encoding and with the credentials of the build alone. -/
theorem compressed_context_with_own_credentials :
    (∀ source, loggedInClient.credentials = some source → source.HasPlainNames) ∧
    (∀ value, compressedBuild.options.get? "authConfigs" = some value →
      (Source.ofJson value).HasPlainNames) ∧
    ∃ b s', (prepare loggedInClient compressedBuild).run {} = (.ok b, s') ∧
      Carries b.headers
        (some (.ofJson (.object [("own.example", .object [("username", .string "u")])]))) ∧
      b.headers.get? "Content-Type" = some (.string "application/tar") ∧
      b.headers.get? "Content-Encoding" = some (.string "gzip") ∧
      b.body = some (.bytes [31, 139]) ∧ b.params.remote = none := by
  have hclient : ∀ source, loggedInClient.credentials = some source → source.HasPlainNames := by
    rintro source ⟨⟩
    exact ⟨by decide, by decide⟩
  have hown : ∀ value, compressedBuild.options.get? "authConfigs" = some value →
      (Source.ofJson value).HasPlainNames := by
    rintro value ⟨⟩
    exact ⟨by decide, by decide⟩
  have hok : ((prepare loggedInClient compressedBuild).run {}).1.isOk = true := by
    decide +kernel
  generalize hrun : (prepare loggedInClient compressedBuild).run {} = result at hok
  obtain ⟨outcome, s'⟩ := result
  cases outcome with
  | error f => cases hok
  | ok b =>
    obtain ⟨hcarries, -, hdescribes, hbody, hremote, -⟩ := prepared_headers_and_body hclient hown hrun
    have hgiven : ∀ url, ¬ compressedBuild.IsRemote url := fun url hurl => by cases hurl.noBody
    refine ⟨hclient, hown, b, s', rfl, hcarries _ rfl (by simp), hdescribes.type_of_body hgiven, ?_,
      hbody.given _ rfl, ?_⟩
    · exact (hdescribes.encoding_iff _).2 ⟨rfl, rfl, rfl, by simp⟩
    · exact Option.eq_none_iff_forall_ne_some.2 fun url hurl => hgiven url ((hremote url).1 hurl)

end ImageBuild.Daemon
