import ImageBuild.CommandLine.Build
import ImageBuild.Proofs.Request.KeyValue
import ImageBuild.Proofs.Request.Params

namespace ImageBuild.CommandLine

/-!
# From flags to the query — what the daemon is asked for is what the flags say

The flags of the build command become build options (`optionsOf`), which are checked and become the
query of a build (`paramsOf`).  Between the two every name changes and some truth values turn over.

* `IsFlagRecord.accepted_iff` — the checks refuse nothing but a bad file, an empty target or
  platform, and a tag that is none.
* `IsFlagRecord.ofMembers_optionMembers` — what is read from the options are the flags again.
* `query_of_flags` — hence the outcome of both steps together, for every record of flags.
-/

open ImageBuild.Request

/-- The flags that are texts. -/
def textFlags : List String := ["file", "tag", "target", "platform"]

/-- The flags that are lists of pairs. -/
def pairFlags : List String := ["buildArg", "label"]

/-- The text that is given for a flag. -/
def textUnder (flags : Json) (flag : String) : Option String := (flags.get? flag).bind Json.string?

/-- The texts that are given for a repeated flag. -/
def textsUnder (flags : Json) (flag : String) : List String :=
  ((flags.get? flag).bind Options.listOf).getD []

/-- A record of flags as the command line makes it: texts and lists of texts where they belong, and
    no pair with the reserved name for its key.  Nothing is said of the other flags. -/
structure IsFlagRecord (flags : Json) : Prop where
  kind : flags.kind = .object
  texts : ∀ flag ∈ textFlags, ∀ value, flags.get? flag = some value → value.kind = .string
  lists : ∀ flag ∈ pairFlags, ∀ value, flags.get? flag = some value →
    ∃ texts : List String, value = .array (texts.map .string)
  keys : ∀ flag ∈ pairFlags, HasPlainKeys (textsUnder flags flag)

/-- The file is empty or has a NUL in it. -/
def HasBadFile (flags : Json) : Prop :=
  ∃ file, textUnder flags "file" = some file ∧ (file = "" ∨ '\x00' ∈ file.toList)

/-- The target or the platform is empty, or the tag is none. -/
def HasBadOption (flags : Json) : Prop :=
  textUnder flags "target" = some "" ∨ textUnder flags "platform" = some "" ∨
    ∃ tag, textUnder flags "tag" = some tag ∧ isValidTag tag = false

/-- A query tells under a name whether something is so. -/
def Tells (query : Json) (name : String) (p : Prop) : Prop :=
  ∃ b, query.get? name = some (.bool b) ∧ (b = true ↔ p)

/-- A query asks for what flags say. -/
structure AsksFor (flags query : Json) : Prop where
  rm : Tells query "rm" (flags.get? "rm" ≠ some (.bool false))
  noCache : Tells query "nocache" (flags.get? "cache" = some (.bool false))
  pull : Tells query "pull" (flags.get? "pull" = some (.bool true))
  forceRm : Tells query "forcerm" (flags.get? "forceRm" = some (.bool true))
  quiet : Tells query "q" (flags.get? "quiet" = some (.bool true))
  tag : query.get? "t" = some ((textUnder flags "tag").elim .null .string)
  target : query.get? "target" = (textUnder flags "target").map .string
  platform : query.get? "platform" = (textUnder flags "platform").map .string
  buildArgs : ∃ text : Option String, query.get? "buildargs" = text.map .string ∧
    MapsLast (textsUnder flags "buildArg") text
  labels : ∃ text : Option String, query.get? "labels" = text.map .string ∧
    MapsLast (textsUnder flags "label") text

/-! ### Reading flags -/

/-- A flag is given as a truth value exactly when this value is there. -/
theorem isFlag_iff {b : Bool} {given : Option Json} :
    isFlag b given = true ↔ given = some (.bool b) := by
  cases given with
  | none => simp [isFlag]
  | some value => cases value <;> simp [isFlag]

/-- A flag is not given as a truth value exactly when this value is not there. -/
theorem isFlag_eq_false_iff {b : Bool} {given : Option Json} :
    isFlag b given = false ↔ given ≠ some (.bool b) := by
  rw [← Bool.not_eq_true, Ne, isFlag_iff]

/-- A map of strings has the form of one. -/
theorem members_mapJson (map : Members String) : Form.members .string (mapJson map) = none := by
  rw [mapJson, Form.members, List.findSome?_eq_none_iff]
  intro m hm
  obtain ⟨n, -, rfl⟩ := List.mem_map.1 hm
  rfl

/-- A map of strings is read again, as far as no name in it is reserved. -/
theorem mapOf_mapJson {map : Members String} (hmap : ∀ m ∈ map, m.1 ≠ Members.reservedName) :
    Options.mapOf Json.string? (mapJson map) = some map := by
  have hkept : Members.erase (map.map fun m => (m.1, Json.string m.2)) Members.reservedName =
      map.map fun m => (m.1, Json.string m.2) := by
    rw [Members.erase, List.filter_eq_self]
    intro m hm
    obtain ⟨n, hn, rfl⟩ := List.mem_map.1 hm
    exact bne_iff_ne.2 (hmap n hn)
  simp [Options.mapOf, mapJson, Json.members?, hkept, List.filterMap_map, Json.string?]

/-- A string passes for one that is not empty unless it is. -/
theorem filledString_string (text : String) :
    Form.filledString (.string text) = none ↔ text ≠ "" := by
  rw [Form.filledString]
  split <;> simp_all [Form.here]

/-- The texts of a repeated flag are those in the list that is given for it. -/
theorem textsUnder_of_get? {flags : Json} {flag : String} {given : Option (List String)}
    (h : flags.get? flag = given.map fun texts => .array (texts.map .string)) :
    textsUnder flags flag = given.getD [] := by
  rw [textsUnder, h]
  cases given with
  | none => rfl
  | some texts => simp [Options.listOf, List.filterMap_map, Function.comp_def, Json.string?]

section Record

variable {flags : Json} (hrecord : IsFlagRecord flags)

include hrecord

/-- What is given for a flag that is a text is the text. -/
theorem IsFlagRecord.get?_eq_map {flag : String} (hflag : flag ∈ textFlags) :
    flags.get? flag = (textUnder flags flag).map .string := by
  rw [textUnder]
  cases hvalue : flags.get? flag with
  | none => rfl
  | some value =>
    have hkind : value.kind = .string := hrecord.texts flag hflag value hvalue
    cases value with
    | string text => rfl
    | _ => cases hkind

/-- What is given for a repeated flag is the list of its texts. -/
theorem IsFlagRecord.isListOf {flag : String} (hflag : flag ∈ pairFlags) :
    IsListOf (flags.get? flag) (textsUnder flags flag) := by
  cases hvalue : flags.get? flag with
  | none =>
    have hread : textsUnder flags flag = (none : Option (List String)).getD [] :=
      textsUnder_of_get? hvalue
    exact .inr ⟨rfl, hread⟩
  | some value =>
    obtain ⟨texts, rfl⟩ := hrecord.lists flag hflag value hvalue
    have hread : textsUnder flags flag = (some texts).getD [] := textsUnder_of_get? hvalue
    rw [hread]
    exact .inl rfl

end Record

/-! ### The options of flags -/

/-- Flags that give options are a path, the flags, and what the pairs among the flags give. -/
theorem IsFlagRecord.optionsOf_eq_ok {flags : Json} (hrecord : IsFlagRecord flags)
    {path : String} {options : Members Json} (h : optionsOf path flags = .ok options) :
    ∃ buildArgs labels, pairs? (flags.get? "buildArg") = .ok buildArgs ∧
      pairs? (flags.get? "label") = .ok labels ∧
      options = optionMembers path flags buildArgs labels := by
  have hpairs : ∀ {option : String} {given : Option Json} {map : Option (Members String)},
      pairsOf option given = .ok map → pairs? given = .ok map := by
    intro option given map h
    rw [pairsOf] at h
    split at h <;> cases h
    assumption
  have hkind : flags.kind ≠ .null := by simp [hrecord.kind]
  rw [optionsOf, if_neg hkind] at h
  cases hargs : pairsOf "build-arg" (flags.get? "buildArg") with
  | error defect =>
    rw [hargs] at h
    cases h
  | ok buildArgs =>
    cases hlabels : pairsOf "label" (flags.get? "label") with
    | error defect =>
      rw [hargs, hlabels] at h
      cases h
    | ok labels =>
      rw [hargs, hlabels] at h
      cases h
      exact ⟨buildArgs, labels, hpairs hargs, hpairs hlabels, rfl⟩

section Options

variable {flags : Json} (hrecord : IsFlagRecord flags) (path : String)
  (buildArgs labels : Option (Members String))

include hrecord

/-- The Dockerfile of the options is the file. -/
theorem IsFlagRecord.get?_dockerfile :
    (Json.object (optionMembers path flags buildArgs labels)).get? "dockerfile" =
      (textUnder flags "file").map .string := by
  rw [← hrecord.get?_eq_map (by decide)]
  simp [optionMembers]

/-- The tag of the options is the tag. -/
theorem IsFlagRecord.get?_tag :
    (Json.object (optionMembers path flags buildArgs labels)).get? "tag" =
      (textUnder flags "tag").map .string := by
  rw [← hrecord.get?_eq_map (by decide)]
  simp [optionMembers]

/-- The Dockerfile of the options passes its check unless the file is bad. -/
theorem IsFlagRecord.dockerfile_iff :
    ((Json.object (optionMembers path flags buildArgs labels)).get? "dockerfile").bind
        Options.dockerfileFailure? = none ↔ ¬ HasBadFile flags := by
  rw [hrecord.get?_dockerfile, HasBadFile]
  cases textUnder flags "file" with
  | none => simp
  | some file => simp [Options.dockerfileFailure?, dockerfileError?_eq_none_iff]

/-- The options have no issue unless the target or the platform is empty. -/
theorem IsFlagRecord.issue?_eq_none_iff :
    Options.issue? (.object (optionMembers path flags buildArgs labels)) = none ↔
      textUnder flags "target" ≠ some "" ∧ textUnder flags "platform" ≠ some "" := by
  have htag := hrecord.get?_eq_map (show "tag" ∈ textFlags by decide)
  have htarget := hrecord.get?_eq_map (show "target" ∈ textFlags by decide)
  have hplatform := hrecord.get?_eq_map (show "platform" ∈ textFlags by decide)
  have hfilled : ∀ given : Option String,
      (∀ text, given = some text → text ≠ "") ↔ given ≠ some "" :=
    fun given => ⟨fun h heq => h "" heq rfl, fun h text htext heq => h (heq ▸ htext)⟩
  rw [← hfilled, ← hfilled]
  -- what is found under the known names, and what the form of each says of it
  simp [Options.issue?, Options.memberIssue?, Options.forms, optionMembers, htag, htarget,
    hplatform, Form.within, Form.string, Form.flag, members_mapJson, filledString_string]

/-- The checks refuse no options but those that have a bad file or another bad option. -/
theorem IsFlagRecord.accepted_iff :
    Accepted (.object (optionMembers path flags buildArgs labels)) ↔
      ¬ HasBadFile flags ∧ ¬ HasBadOption flags := by
  have hget := hrecord.get?_tag path buildArgs labels
  have hdockerfile := hrecord.dockerfile_iff path buildArgs labels
  have hissue := hrecord.issue?_eq_none_iff path buildArgs labels
  constructor
  · rintro ⟨hfile, hforms, htag⟩
    refine ⟨hdockerfile.1 hfile, ?_⟩
    rintro (htarget | hplatform | ⟨tag, hgiven, hbad⟩)
    · exact (hissue.1 hforms).1 htarget
    · exact (hissue.1 hforms).2 hplatform
    · have hvalid : isValidTag tag = true := htag tag (by rw [hget, hgiven]; rfl)
      simp [hvalid] at hbad
  · rintro ⟨hfile, hoption⟩
    have htarget : textUnder flags "target" ≠ some "" := fun h => hoption (.inl h)
    have hplatform : textUnder flags "platform" ≠ some "" := fun h => hoption (.inr (.inl h))
    refine ⟨hdockerfile.2 hfile, hissue.2 ⟨htarget, hplatform⟩, fun tag htag => ?_⟩
    rw [hget] at htag
    by_contra hbad
    exact hoption (.inr (.inr ⟨tag, by simpa using htag, by simpa using hbad⟩))

/-- Read as options, the members are the flags again. -/
theorem IsFlagRecord.ofMembers_optionMembers
    (hbuildArgs : ∀ map, buildArgs = some map → ∀ m ∈ map, m.1 ≠ Members.reservedName)
    (hlabels : ∀ map, labels = some map → ∀ m ∈ map, m.1 ≠ Members.reservedName) :
    Options.ofMembers (optionMembers path flags buildArgs labels) =
      { tag := textUnder flags "tag"
        quiet := some (isFlag true (flags.get? "quiet"))
        noCache := some (isFlag false (flags.get? "cache"))
        rm := some !(isFlag false (flags.get? "rm"))
        forceRm := some (isFlag true (flags.get? "forceRm"))
        pull := some (isFlag true (flags.get? "pull"))
        buildArgs := buildArgs
        labels := labels
        target := textUnder flags "target"
        platform := textUnder flags "platform" } := by
  have htag := hrecord.get?_eq_map (show "tag" ∈ textFlags by decide)
  have htarget := hrecord.get?_eq_map (show "target" ∈ textFlags by decide)
  have hplatform := hrecord.get?_eq_map (show "platform" ∈ textFlags by decide)
  have hmap : ∀ given : Option (Members String),
      (∀ map, given = some map → ∀ m ∈ map, m.1 ≠ Members.reservedName) →
      (given.map mapJson).bind (Options.mapOf Json.string?) = given := by
    intro given hgiven
    cases given with
    | none => rfl
    | some map => exact mapOf_mapJson (hgiven map rfl)
  have htext : ∀ given : Option String, (given.map Json.string).bind Json.string? = given := by
    intro given
    cases given <;> rfl
  simp [Options.ofMembers, optionMembers, htag, htarget, hplatform, Options.flagOf,
    hmap _ hbuildArgs, hmap _ hlabels, htext]

end Options

/-! ### The query of flags -/

section Query

variable {flags : Json} (hrecord : IsFlagRecord flags) {buildArgs labels : Option (Members String)}
  (hbuildArgs : pairs? (flags.get? "buildArg") = .ok buildArgs)
  (hlabels : pairs? (flags.get? "label") = .ok labels)

include hrecord hbuildArgs hlabels

/-- The query of the options asks for what the flags say. -/
theorem IsFlagRecord.asksFor (path : String) (dockerfile remote : Option String) :
    AsksFor flags (Params.ofOptions (Options.ofMembers (optionMembers path flags buildArgs labels))
      dockerfile remote).toJson := by
  have hargsFlag : "buildArg" ∈ pairFlags := by decide
  have hlabelFlag : "label" ∈ pairFlags := by decide
  have hread := hrecord.ofMembers_optionMembers path buildArgs labels
    (fun map hmap m hm => ne_reservedName_of_pairs? (hrecord.isListOf hargsFlag) hbuildArgs hmap hm)
    (fun map hmap m hm => ne_reservedName_of_pairs? (hrecord.isListOf hlabelFlag) hlabels hmap hm)
  have hbuildText := mapsLast_of_pairs? (hrecord.isListOf hargsFlag) hbuildArgs
    (hrecord.keys _ hargsFlag)
  have hlabelText := mapsLast_of_pairs? (hrecord.isListOf hlabelFlag) hlabels
    (hrecord.keys _ hlabelFlag)
  rw [hread]
  -- without limits and with the maps as they are, every parameter is under a name of its own
  have hlimits : orderedLimits [] = [] := by simp [orderedLimits, limitNames]
  constructor
  case buildArgs =>
    refine ⟨_, ?_, hbuildText⟩
    simp [Params.toJson, Params.ofOptions, hlimits]
  case labels =>
    refine ⟨_, ?_, hlabelText⟩
    simp [Params.toJson, Params.ofOptions, hlimits]
  case rm =>
    refine ⟨!(isFlag false (flags.get? "rm")), ?_, by rw [Bool.not_eq_true', isFlag_eq_false_iff]⟩
    simp [Params.toJson, Params.ofOptions, hlimits]
  all_goals
    simp [Tells, Params.toJson, Params.ofOptions, hlimits, isFlag_iff]

end Query

/-- **From flags to the query.** Options that a record of flags gives are refused as a Dockerfile
    when the file is empty or has a NUL in it, as parameters when the target or the platform is empty
    or the tag is none, and never otherwise.  The query then asks for what the flags say: no truth
    value is turned over that should not be, no text is lost, and of several values for a key the
    last one is sent. -/
theorem query_of_flags {path : String} {flags : Json} (hrecord : IsFlagRecord flags)
    {options : Members Json} (hoptions : optionsOf path flags = .ok options)
    (dockerfile remote : Option String) :
    (HasBadFile flags → ∃ e, paramsOf (.object options) dockerfile remote = .error (.client e) ∧
      e.kind = .invalidDockerfileSpec) ∧
    (¬ HasBadFile flags → HasBadOption flags →
      ∃ e, paramsOf (.object options) dockerfile remote = .error (.client e) ∧
        e.kind = .buildParam) ∧
    (¬ HasBadFile flags → ¬ HasBadOption flags →
      ∃ params, paramsOf (.object options) dockerfile remote = .ok params ∧
        AsksFor flags params.toJson) := by
  obtain ⟨buildArgs, labels, hbuildArgs, hlabels, rfl⟩ := hrecord.optionsOf_eq_ok hoptions
  have hdockerfile := hrecord.dockerfile_iff path buildArgs labels
  have haccepted := hrecord.accepted_iff path buildArgs labels
  refine ⟨?_, fun hfile hoption => ?_, fun hfile hoption => ?_⟩
  · rintro ⟨file, hgiven, hbad⟩
    refine invalidDockerfile_of_name ?_ hbad dockerfile remote
    rw [hrecord.get?_dockerfile, hgiven]
    rfl
  · refine buildParam_of_not_accepted (by simp [Json.kind]) (hdockerfile.2 hfile) ?_ dockerfile remote
    exact fun h => (haccepted.1 h).2 hoption
  · have hok := ok_of_accepted (haccepted.2 ⟨hfile, hoption⟩) dockerfile remote
    exact ⟨_, hok, hrecord.asksFor hbuildArgs hlabels path dockerfile remote⟩

/-- What the command line makes of its arguments is a record of flags, unless a pair has the reserved
    name for its key. -/
theorem BuildFlags.isFlagRecord (f : BuildFlags) (hbuildArgs : HasPlainKeys (f.buildArgs.getD []))
    (hlabels : HasPlainKeys (f.labels.getD [])) : IsFlagRecord f.toJson := by
  have htext : ∀ flag ∈ textFlags, ∃ given : Option String,
      f.toJson.get? flag = given.map .string := by
    intro flag hflag
    simp only [textFlags, List.mem_cons, List.not_mem_nil, or_false] at hflag
    rcases hflag with rfl | rfl | rfl | rfl
    · exact ⟨f.file, by simp [toJson]⟩
    · exact ⟨f.tag, by simp [toJson]⟩
    · exact ⟨f.target, by simp [toJson]⟩
    · exact ⟨f.platform, by simp [toJson]⟩
  have hlist : ∀ flag ∈ pairFlags, ∃ given : Option (List String),
      f.toJson.get? flag = given.map (fun texts => .array (texts.map .string)) ∧
        HasPlainKeys (given.getD []) := by
    intro flag hflag
    simp only [pairFlags, List.mem_cons, List.not_mem_nil, or_false] at hflag
    rcases hflag with rfl | rfl
    · exact ⟨f.buildArgs, by simp [toJson], hbuildArgs⟩
    · exact ⟨f.labels, by simp [toJson], hlabels⟩
  refine ⟨rfl, fun flag hflag value hvalue => ?_, fun flag hflag value hvalue => ?_,
    fun flag hflag => ?_⟩
  · obtain ⟨given, hgiven⟩ := htext flag hflag
    obtain ⟨text, -, rfl⟩ := Option.map_eq_some_iff.1 (hgiven ▸ hvalue)
    rfl
  · obtain ⟨given, hgiven, -⟩ := hlist flag hflag
    obtain ⟨texts, -, rfl⟩ := Option.map_eq_some_iff.1 (hgiven ▸ hvalue)
    exact ⟨texts, rfl⟩
  · obtain ⟨given, hgiven, hkeys⟩ := hlist flag hflag
    rwa [textsUnder_of_get? hgiven]

/-- Flags with two values for a key, without a cache and with a tag. -/
def repeatedFlags : BuildFlags :=
  { tag := some "app:1", buildArgs := some ["A=1", "B=", "A=2"], cache := false }

/-- The later of two values is sent, and the flags that turn something off arrive as they should. -/
theorem later_value_asked_for :
    IsFlagRecord repeatedFlags.toJson ∧
    ∃ options params text members, optionsOf "." repeatedFlags.toJson = .ok options ∧
      paramsOf (.object options) (some "Dockerfile") none = .ok params ∧
      params.toJson.get? "nocache" = some (.bool true) ∧
      params.toJson.get? "rm" = some (.bool true) ∧
      params.toJson.get? "t" = some (.string "app:1") ∧
      params.toJson.get? "labels" = none ∧
      params.toJson.get? "buildargs" = some (.string text) ∧
      Json.parse? text.toList = some (.object members) ∧
      Members.get? members "A" = some (.string "2") := by
  have hrecord : IsFlagRecord repeatedFlags.toJson := by
    exact repeatedFlags.isFlagRecord (by decide) (by decide)
  have hoptions : optionsOf "." repeatedFlags.toJson = .ok (optionMembers "." repeatedFlags.toJson
      (some [("A", "2"), ("B", "")]) none) := by rfl
  have hfile : ¬ HasBadFile repeatedFlags.toJson := by
    rintro ⟨file, hfile, -⟩
    cases hfile
  have hoption : ¬ HasBadOption repeatedFlags.toJson := by
    rintro (htarget | hplatform | ⟨tag, htag, hbad⟩)
    · cases htarget
    · cases hplatform
    · cases htag
      revert hbad
      decide
  obtain ⟨params, hparams, hasks⟩ :=
    (query_of_flags hrecord hoptions (some "Dockerfile") none).2.2 hfile hoption
  obtain ⟨noCache, hnoCache, hcache⟩ := hasks.noCache
  obtain ⟨rm, hrm, hkept⟩ := hasks.rm
  obtain ⟨label, hlabel, hlabels⟩ := hasks.labels
  obtain ⟨text, htext, hmaps⟩ := hasks.buildArgs
  cases text with
  | none => cases hmaps.eq_none_iff.1 rfl
  | some text =>
    obtain ⟨members, hparsed, hlast⟩ := hmaps.parsed text rfl
    refine ⟨hrecord, _, params, text, members, hoptions, hparams, ?_, ?_, hasks.tag, ?_, htext,
      hparsed, hlast "A"⟩
    · rw [hnoCache, hcache.2 rfl]
    · rw [hrm, hkept.2 (fun hoff => by cases hoff)]
    · rw [hlabel, hlabels.eq_none_iff.2 rfl]
      rfl

end ImageBuild.CommandLine
