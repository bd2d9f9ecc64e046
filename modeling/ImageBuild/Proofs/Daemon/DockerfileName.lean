import ImageBuild.Proofs.Archive.Launch
import ImageBuild.Proofs.Context.Naming
import ImageBuild.Proofs.Daemon.EffectOrder

namespace ImageBuild.Daemon

open ImageBuild.Path ImageBuild.Path.Posix

/-!
# The name of the Dockerfile — what the daemon is told is what is in the archive

The name of a Dockerfile is resolved once, and then goes two ways: into the parameters of the build,
and with the request to pack into the arguments of the archiver.  A local build that becomes ready
has taken both (`parts_of_prepare`), so that the daemon finds the Dockerfile under the name that it
is told: in the context itself, or as the one file of a staging directory
(`prepared_dockerfile_is_packed`).
-/

/-- What a local build that becomes ready has done: one request to pack its directory, whose name for
    the Dockerfile is also the one in the parameters, and whose archive is the body. -/
theorem parts_of_prepare {client : Client} (hquiet : client.packager.IsQuiet) {r : BuildRequest}
    {path : String} (hlocal : r.IsLocal path) {s s' : Session} {b : PreparedBuild}
    (h : (prepare client r).run s = (.ok b, s')) :
    ∃ told body,
      s'.trace = s.trace ++ told ∧
      requests told = [.pack (packRequest r.options s.environment path)] ∧
      b.params.dockerfile =
        (packRequest r.options s.environment path).resolved.contextRelativePath ∧
      (client.packager.pack (packRequest r.options s.environment path)).run
        (s.record (.pack (packRequest r.options s.environment path))) = (.ok body, s') ∧
      b.body = some body := by
  obtain ⟨place, params, headers, hplace, hchecks, h⟩ := ok_of_prepare h
  obtain rfl : place = .directory path := (hasPlace_of_place hplace).unique hlocal
  obtain ⟨told, htrace, hrequests⟩ :=
    requests_of_complete hquiet r.options s.environment params headers (.directory path) s
  rw [h] at htrace
  rw [complete, Action.run_emit_bind] at h
  obtain ⟨body, s₁, hpack, h⟩ := Action.ok_of_run_bind h
  cases h
  -- the check resolves the Dockerfile as the request does, from the same options
  obtain ⟨dockerfile, hdockerfile, hcheck⟩ := ok_of_bind hchecks
  obtain rfl := dockerfile?_of_directoryDockerfile hdockerfile
  exact ⟨told, body, htrace, hrequests,
    Request.dockerfile_of_paramsOf (parts_of_checkBuild hcheck).1, hpack, rfl⟩

/-- The body of a prepared build is what comes of one start of the archiver. -/
def PreparedBuild.IsArchiveOf (b : PreparedBuild) (command : String) (files : FileTree)
    (arguments : List String) : Prop :=
  ∃ output, (Archive.start files command arguments).output command = .ok output ∧
    b.body = some (.archive output)

/-- **The name of the Dockerfile.** By posix rules, a local build that becomes ready has made one
    request to pack, and the daemon is told the name of the Dockerfile that is in it.  The archiver
    packs the context root and, when the Dockerfile lies outside, this name from a fresh directory
    that holds nothing but a copy of the Dockerfile under it.  When the Dockerfile lies inside, the
    name leads from the context root to it, and when none was asked for, none is told; in both cases
    nothing is staged. -/
theorem prepared_dockerfile_is_packed {client : Client} {command : String}
    (hclient : client.packager = .ofCommand command) {r : BuildRequest} {path : String}
    (hlocal : r.IsLocal path) {s s' : Session} (hposix : s.environment.platform = .posix)
    (hcwd : isAbsolute s.environment.workingDirectory.toList = true) (hclosed : s.files.IsClosed)
    {b : PreparedBuild} (h : (prepare client r).run s = (.ok b, s')) :
    let place := placeIn s.environment
    let contextRoot := Context.normalizeRoot place path
    let context := ["-c", "-f", "-", "-C", contextRoot, "."]
    ∃ told resolved files arguments,
      s'.trace = s.trace ++ told ∧ requests told = [.pack ⟨contextRoot, resolved⟩] ∧
      b.params.dockerfile = resolved.contextRelativePath ∧
      b.IsArchiveOf command files arguments ∧
      match Request.Options.dockerfile? r.options with
      | none => resolved = ⟨none, none⟩ ∧ files = s.files ∧ arguments = context
      | some spec =>
        let target := Context.specLocation place path spec
        (Context.rootLocation place path <+: target → ∃ name,
          resolved = ⟨some name, none⟩ ∧ Spells (join [contextRoot.toList, name.toList]) target ∧
          files = s.files ∧ arguments = context) ∧
        (¬ Context.rootLocation place path <+: target → ∃ name source staging directory,
          resolved = ⟨some name, some source⟩ ∧ Spells source.toList target ∧
          IsName isSeparator name.toList ∧ name.toList.head? ≠ some '-' ∧
          Archive.IsStaged s.files files directory staging source name ∧
          arguments = context ++ ["-C", staging, name]) := by
  intro place contextRoot context
  have hquiet : client.packager.IsQuiet := hclient ▸ Packager.isQuiet_ofCommand command
  obtain ⟨told, body, htrace, hrequests, hname, hpack, hbody⟩ := parts_of_prepare hquiet hlocal h
  rw [hclient] at hpack
  obtain ⟨staged, s₁, output, hstaged, houtput, rfl⟩ := Archive.pack_eq_ok hpack
  refine ⟨told, (packRequest r.options s.environment path).resolved, s₁.files, _, htrace, hrequests,
    hname, ⟨output, houtput, hbody⟩, ?_⟩
  -- whether there is a source is decided by the resolution alone, and staging follows it
  cases hspec : Request.Options.dockerfile? r.options with
  | none =>
    have hresolved : (packRequest r.options s.environment path).resolved = ⟨none, none⟩ := by
      rw [packRequest, hspec]
      rfl
    have hsource := congrArg Context.Resolution.relocationSource hresolved
    obtain ⟨hfiles, harguments⟩ := Archive.launch_of_no_source hsource hstaged
    exact ⟨hresolved, hfiles, harguments⟩
  | some spec =>
    have hresolved : (packRequest r.options s.environment path).resolved =
        Context.resolve place spec contextRoot := by
      rw [packRequest, hspec]
      rfl
    -- stated of the place, for the lemmas below to find it
    have hposix : place.platform = .posix := hposix
    have hcwd : isAbsolute place.cwd.toList = true := hcwd
    refine ⟨fun hinside => ?_, fun houtside => ?_⟩
    · obtain ⟨name, hresolve, hjoin⟩ := Context.resolve_of_inside hposix hcwd hinside
      rw [hresolve] at hresolved
      have hsource := congrArg Context.Resolution.relocationSource hresolved
      obtain ⟨hfiles, harguments⟩ := Archive.launch_of_no_source hsource hstaged
      exact ⟨name, hresolved, hjoin, hfiles, harguments⟩
    · obtain ⟨name, source, hresolve, hsource, hisName, hhead⟩ :=
        Context.resolve_of_not_inside hposix hcwd houtside
      rw [hresolve] at hresolved
      obtain ⟨directory, staging, hisStaged, harguments⟩ :=
        Archive.launch_of_source (s := s.record _) hclosed hresolved hsource hisName hstaged
      exact ⟨name, source, staging, directory, hresolved, hsource, hisName, hhead, hisStaged,
        harguments⟩

/-- Files with a context directory, a Dockerfile next to it, and a place for temporary files. -/
def siblingFiles : FileTree :=
  ⟨[(["ctx"], .directory), (["ctx", "app"], .file [1, 2] false), (["other"], .directory),
    (["other", "Dockerfile"], .file [70, 10] false), (["tmp"], .directory)]⟩

/-- A build of the context directory with the Dockerfile next to it. -/
def siblingBuild : BuildRequest :=
  { options := .object [("path", .string "/ctx"), ("dockerfile", .string "../other/Dockerfile")] }

/-- The Dockerfile next to the context is told and packed under one name, out of a staging
    directory. -/
theorem sibling_dockerfile_is_packed :
    siblingFiles.IsClosed ∧ siblingBuild.IsLocal "/ctx" ∧
      ∃ b s' name source staging directory files,
        (prepare plainClient siblingBuild).run { files := siblingFiles } = (.ok b, s') ∧
        b.params.dockerfile = some name ∧
        Spells source.toList ["other".toList, "Dockerfile".toList] ∧
        Archive.IsStaged siblingFiles files directory staging source name ∧
        b.IsArchiveOf "tar" files ["-c", "-f", "-", "-C", "/ctx", ".", "-C", staging, name] := by
  have hclosed : siblingFiles.IsClosed := by decide
  have hlocal : siblingBuild.IsLocal "/ctx" := ⟨rfl, rfl, by decide⟩
  have hok : ((prepare plainClient siblingBuild).run { files := siblingFiles }).1.isOk = true := by
    decide +kernel
  generalize hrun : (prepare plainClient siblingBuild).run { files := siblingFiles } = result at hok
  obtain ⟨outcome, s'⟩ := result
  cases outcome with
  | error f => cases hok
  | ok b =>
    obtain ⟨told, resolved, files, arguments, -, -, hname, harchive, -, hout⟩ :=
      prepared_dockerfile_is_packed rfl hlocal rfl (by decide) hclosed hrun
    obtain ⟨name, source, staging, directory, rfl, hsource, -, -, hstaged, rfl⟩ := hout (by decide)
    have hroot : Context.normalizeRoot (placeIn {}) "/ctx" = "/ctx" := by decide
    rw [hroot] at harchive
    exact ⟨hclosed, hlocal, b, s', name, source, staging, directory, files, rfl, hname, hsource,
      hstaged, harchive⟩

end ImageBuild.Daemon
