import ImageBuild.Proofs.Path.Location
import ImageBuild.Proofs.Registry.Rejected
import ImageBuild.Proofs.Settings

namespace ImageBuild.Registry

open ImageBuild.Settings

/-!
# The client config file — which file the environment names

The file with credentials is looked for first in the config directory, and then read in the current
layout (`layoutAt_configPath`), whatever the directory is.  `run_load` says what comes of the first
file that is there.  `config_file_of_environment` puts both together with the directory that the
environment denotes.
-/

/-- The path of the client config file in a directory. -/
def configPath (directory : List Char) : String :=
  String.ofList (Path.Posix.join [directory, fileName.toList])

/-- What comes of a file in the config directory: no source when it holds no value, and otherwise
    what its value stores in the current layout. -/
def sourceIn (value : Except String Json) : Except Failure (Option Source) :=
  match value with
  | .error _ => .ok none
  | .ok file => ((readFile .current file).2.map fun stored => some (sourceOfStored stored)).mapError
      Failure.client

/-- The file is a name. -/
theorem isName_fileName : Path.IsName Path.Posix.isSeparator fileName.toList := by
  have hfree : fileName.toList.all (!Path.Posix.isSeparator ·) = true := by decide
  exact ⟨by decide, by decide, by decide, by simpa using hfree⟩

/-- The file in a directory has the current layout. -/
theorem layoutAt_configPath (directory : List Char) :
    layoutAt (configPath directory) = .current := by
  rw [layoutAt, configPath, String.toList_ofList, Path.Posix.baseName_join_name _ isName_fileName]
  exact if_neg (by decide)

/-- The file in the config directory counts when it is there. -/
theorem run_load {s : Session}
    (hthere : s.files.has (configPath (configDirectory s.environment).toList).toList = true) :
    ((load {}).run s).1 =
      sourceIn (readValue s.files (configPath (configDirectory s.environment).toList)) := by
  have hpath : (paths s.environment {}).find? (fun path => s.files.has path.toList) =
      some (configPath (configDirectory s.environment).toList) := List.find?_cons_of_pos hthere
  rw [load, Action.run_get_bind, hpath]
  -- what is told does not count, only whether there is a value and what it stores
  cases hvalue : readValue s.files (configPath (configDirectory s.environment).toList) with
  | error reason =>
    simp only [hvalue]
    rw [Action.run_bind, Action.run_log]
    rfl
  | ok file =>
    simp only [hvalue]
    rw [layoutAt_configPath, Action.run_bind]
    have hrun := run_readConfig .current file s
    generalize (readConfig .current file).run s = ran at hrun ⊢
    obtain ⟨result, s'⟩ := ran
    rw [sourceIn]
    cases hread : (readFile .current file).2 with
    | error e =>
      rw [hread] at hrun
      cases hrun
      rfl
    | ok stored =>
      rw [hread] at hrun
      cases hrun
      show ((Action.debug _ >>= fun _ => pure (some (sourceOfStored stored))).run s').1 = _
      rw [Action.debug, Action.run_bind, Action.run_log]
      rfl

/-- **The client config file.**  The first path is the one of the file in the config directory.
    That directory is the one that the environment denotes, with the home directory and the setting
    taken as they are, exactly unless the setting starts at a home directory in which a dollar sign
    stands before a mark.  The file in the denoted directory is then read when it is there. -/
theorem config_file_of_environment (s : Session) (home : String)
    (hhome : s.environment.get? "HOME" = some home) (hne : home ≠ "") :
    (paths s.environment {}).head? =
        some (configPath (configDirectory s.environment).toList) ∧
      ((configDirectory s.environment).toList =
          denotedDirectory home.toList (configSetting s.environment) ↔
        ¬ (StartsAtHome (configSetting s.environment) ∧ HasMark home.toList)) ∧
      (¬ (StartsAtHome (configSetting s.environment) ∧ HasMark home.toList) →
        (paths s.environment {}).head? =
            some (configPath (denotedDirectory home.toList (configSetting s.environment))) ∧
          ∀ path, path = configPath (denotedDirectory home.toList (configSetting s.environment)) →
            s.files.has path.toList = true →
              ((load {}).run s).1 = sourceIn (readValue s.files path)) := by
  have hdirectory := configDirectory_eq_iff hhome hne
  refine ⟨rfl, hdirectory, fun hplain => ?_⟩
  rw [← hdirectory.2 hplain]
  refine ⟨rfl, ?_⟩
  rintro path rfl hthere
  exact run_load hthere

/-- A file with the credentials of one registry. -/
def tokenFile : Json :=
  .object [("auths", .object [("r.example", .object [("identitytoken", .string "t")])])]

/-- A session with a home directory, a setting, and such a file. -/
def sessionWith (home setting : String) (file : Location) : Session where
  environment := { values := [("HOME", home), ("DOCKER_CONFIG", setting)] }
  files := FileTree.write {} file (Text.Utf8.encode tokenFile.print) false

/-- A session with the file behind the tilde of the setting. -/
def tildeSession : Session := sessionWith "/home/u" "~/cfg" ["home", "u", "cfg", fileName]

/-- The file behind the tilde is found, with its registry. -/
theorem file_behind_tilde_is_read :
    tildeSession.environment.get? "HOME" = some "/home/u" ∧
      (paths tildeSession.environment {}).head? = some "/home/u/cfg/config.json" ∧
      ((load {}).run tildeSession).1 =
        .ok (some (sourceOfStored [("r.example", .token "t" "r.example")])) := by
  have hhome : tildeSession.environment.get? "HOME" = some "/home/u" := by rfl
  obtain ⟨-, -, hfile⟩ := config_file_of_environment tildeSession "/home/u" hhome (by decide)
  obtain ⟨hpaths, hload⟩ := hfile fun h => not_hasMark_of_notMem (by decide) h.2
  have hpath : configPath (denotedDirectory "/home/u".toList
      (configSetting tildeSession.environment)) = "/home/u/cfg/config.json" := by rfl
  have hthere : tildeSession.files.has "/home/u/cfg/config.json".toList = true := by rfl
  have hvalue : readValue tildeSession.files "/home/u/cfg/config.json" = .ok tokenFile := by rfl
  refine ⟨hhome, by rw [hpaths, hpath], ?_⟩
  rw [hload _ hpath.symm hthere, hvalue]
  rfl

/-- A session with the file in a home directory that has two dollar signs. -/
def dollarSession : Session :=
  sessionWith "/home/a$$b" "~/.docker" ["home", "a$$b", ".docker", fileName]

/-- One of the dollar signs is lost, and the file in the denoted directory is not found. -/
theorem doubled_dollar_sign_lost :
    (paths dollarSession.environment {}).head? = some "/home/a$b/.docker/config.json" ∧
      configPath (denotedDirectory "/home/a$$b".toList "~/.docker".toList) =
        "/home/a$$b/.docker/config.json" ∧
      dollarSession.files.has "/home/a$$b/.docker/config.json".toList = true ∧
      ((load {}).run dollarSession).1 = .ok none :=
  ⟨by rfl, by rfl, by rfl, by rfl⟩

end ImageBuild.Registry
