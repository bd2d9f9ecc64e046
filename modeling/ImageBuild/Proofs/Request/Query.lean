import ImageBuild.Proofs.Request.Domains

namespace ImageBuild.Request

/-!
# The query of options — which options are refused, and what the others become

`rowsOf` lists the parameters of a build with the values that the options have for them, taken from
the options as they were given.  What the checks read from options in their domains is what was
given (`ReadsBack`), so that the parameters are exactly those rows that have a value
(`toJson_ofOptions`).  The first of three checks that does not pass decides about options
(`outcome_of_options`): the name of the Dockerfile, the domains, and the grammar of tags.
`query_of_options` puts both together.
-/

/-- The JSON text of a map or a list, unless it is empty. -/
def filledText : Json → Option Json
  | .object [] | .array [] => none
  | value => some (.string value.text)

/-- A text that there may be, as a value. -/
def textOrNull (text : Option String) : Json := text.elim .null .string

/-- The parameters of a build and the values that given options have for them. -/
def rowsOf (given : Members Json) (dockerfile remote : Option String) :
    List (String × Option Json) :=
  [("t", some ((given.get? "tag").getD .null)),
    ("q", some ((given.get? "quiet").getD (.bool false))),
    ("dockerfile", some (textOrNull dockerfile)),
    ("rm", some ((given.get? "rm").getD (.bool false))),
    ("nocache", some ((given.get? "noCache").getD (.bool false))),
    ("pull", some ((given.get? "pull").getD (.bool false))),
    ("forcerm", some ((given.get? "forceRm").getD (.bool false))),
    ("remote", some (textOrNull remote))] ++
  limitNames.map (fun name => (name, (given.get? "containerLimits").bind (·.get? name))) ++
  [("buildargs", (given.get? "buildArgs").bind filledText),
    ("labels", (given.get? "labels").bind filledText),
    ("cachefrom", (given.get? "cacheFrom").bind filledText),
    ("target", given.get? "target"),
    ("platform", given.get? "platform"),
    ("networkmode", given.get? "networkMode"),
    ("shmsize", given.get? "shmSize")]

/-- The parameters that given options have a value for. -/
def queryOf (given : Members Json) (dockerfile remote : Option String) : Members Json :=
  Members.made id (rowsOf given dockerfile remote)

/-- What is read from a value of a domain gives this value again. -/
def ReadsBack {α : Type} (read : Json → Option α) (write : α → Json) (domain : Json → Prop) :
    Prop :=
  ∀ value, domain value → (read value).map write = some value

/-! ### Reading back -/

section Reading

variable {α : Type} {read : Json → Option α} {write : α → Json} {domain : Json → Prop}

/-- What is read from a value that there may be gives this value again. -/
theorem ReadsBack.map_bind (h : ReadsBack read write domain) {given : Option Json}
    (hgiven : ∀ value, given = some value → domain value) :
    (given.bind read).map write = given := by
  cases given with
  | none => rfl
  | some value => exact h value (hgiven value rfl)

/-- Strings are read back. -/
theorem readsBack_string : ReadsBack Json.string? .string IsString := by
  rintro value ⟨s, rfl⟩
  rfl

/-- Strings that are not empty are read back. -/
theorem readsBack_filledString : ReadsBack Json.string? .string IsFilledString := by
  rintro value ⟨s, -, rfl⟩
  rfl

/-- Truth values are read back. -/
theorem readsBack_flag : ReadsBack Options.flagOf .bool IsFlag := by
  rintro value ⟨b, rfl⟩
  rfl

/-- Integers above zero are read back. -/
theorem readsBack_positiveInteger : ReadsBack Options.numberOf .number IsPositiveInteger := by
  rintro value ⟨n, -, rfl⟩
  rfl

/-- Limits are read back. -/
theorem readsBack_limit : ReadsBack Options.limitOf Limit.toJson IsLimit := by
  rintro value (⟨n, rfl⟩ | ⟨s, -, rfl⟩)
  · rfl
  · rfl

/-- Members are read back when their values are. -/
theorem ReadsBack.map_filterMap (h : ReadsBack read write domain) {members : Members Json}
    (hmembers : ∀ m ∈ members, domain m.2) :
    (members.filterMap fun m => (read m.2).map fun a => (m.1, a)).map
      (fun m => (m.1, write m.2)) = members := by
  induction members with
  | nil => rfl
  | cons m members ih =>
    rw [List.forall_mem_cons] at hmembers
    obtain ⟨a, ha, hwrite⟩ := Option.map_eq_some_iff.1 (h m.2 hmembers.1)
    rw [List.filterMap_cons_some (by rw [ha]; rfl), List.map_cons, ih hmembers.2, hwrite]

/-- A map without the reserved name is read back when the values of its members are. -/
theorem ReadsBack.mapOf (h : ReadsBack read write domain) :
    ReadsBack (Options.mapOf read) (fun map => .object (map.map fun m => (m.1, write m.2)))
      fun value => IsMapOf domain value ∧ IsPlain value := by
  rintro value ⟨⟨members, rfl, hmembers⟩, hplain⟩
  rw [Options.mapOf, Json.members?, Option.map_some, erase_of_plain hplain, Option.map_some]
  exact congrArg (fun members => some (Json.object members)) (h.map_filterMap hmembers)

/-- A list of filled strings is read back. -/
theorem readsBack_list : ReadsBack Options.listOf (fun items => .array (items.map .string))
    (IsArrayOf IsFilledString) := by
  rintro value ⟨items, rfl, hitems⟩
  rw [Options.listOf, Option.map_some, Option.some.injEq, Json.array.injEq]
  induction items with
  | nil => rfl
  | cons item items ih =>
    rw [List.forall_mem_cons] at hitems
    obtain ⟨⟨s, -, rfl⟩, hitems⟩ := hitems
    exact congrArg (Json.string s :: ·) (ih hitems)

end Reading

/-! ### Rows -/

/-- What is written of something that there may be is a row. -/
theorem map_toList_of_map_eq {α : Type} {found : Option α} {write : α → Json} {value : Option Json}
    (h : found.map write = value) (name : String) :
    (found.toList.map fun a => (name, write a)) = value.toList.map fun v => (name, v) := by
  subst h
  cases found <;> rfl

/-- The text of a map that is read back is the text of what was given. -/
theorem map_mapText? (map : Option (Members String)) :
    (mapText? map).map Json.string =
      (map.map fun map => Json.object (map.map fun m => (m.1, .string m.2))).bind filledText := by
  cases map with
  | none => rfl
  | some map => cases map <;> rfl

/-- The text of a list that is read back is the text of what was given. -/
theorem map_listText? (list : Option (List String)) :
    (listText? list).map Json.string =
      (list.map fun items => Json.array (items.map .string)).bind filledText := by
  cases list with
  | none => rfl
  | some items => cases items <;> rfl

/-- The limits that are sent are the rows of the limits that are given. -/
theorem map_orderedLimits (limits : Members Limit) :
    (orderedLimits limits).map (fun m => (m.1, m.2.toJson)) =
      Members.made id (limitNames.map fun name => (name, (limits.get? name).map Limit.toJson)) := by
  rw [orderedLimits, Members.made, List.map_filterMap, List.filterMap_map]
  simp [Function.comp_def]

/-- Every row has a name of its own. -/
theorem nodup_names_rowsOf (given : Members Json) (dockerfile remote : Option String) :
    ((rowsOf given dockerfile remote).map (·.1)).Nodup := by
  have hnames : (rowsOf given dockerfile remote).map (·.1) =
      ["t", "q", "dockerfile", "rm", "nocache", "pull", "forcerm", "remote", "memory", "memswap",
        "cpushares", "cpusetcpus", "buildargs", "labels", "cachefrom", "target", "platform",
        "networkmode", "shmsize"] := rfl
  rw [hnames]
  decide

/-! ### Options in their domains -/

section Fitting

variable {given : Members Json} (hfits : ∀ option ∈ domains, ¬ IsMisfit given option)

include hfits

/-- What is given for an option is in its domain. -/
theorem domain_of_fits {name : String} {domain : Json → Prop} (hmem : (name, domain) ∈ domains)
    (value : Json) (hvalue : given.get? name = some value) : domain value := by
  by_contra hnot
  exact hfits _ hmem ⟨value, hvalue, hnot⟩

/-- What is read from an option in a domain that is read back is what is given. -/
theorem map_read_of_fits {α : Type} {read : Json → Option α} {write : α → Json}
    {domain : Json → Prop} (hread : ReadsBack read write domain) (name : String)
    (hmem : (name, domain) ∈ domains) : ((given.get? name).bind read).map write = given.get? name :=
  hread.map_bind (domain_of_fits hfits hmem)

/-- A flag is sent as it is given, and otherwise off. -/
theorem bool_getD_flagOf (name : String) (hmem : (name, IsFlag) ∈ domains) :
    Json.bool (((given.get? name).bind Options.flagOf).getD false) =
      (given.get? name).getD (.bool false) := by
  have hread := map_read_of_fits hfits readsBack_flag name hmem
  cases hflag : (given.get? name).bind Options.flagOf with
  | none => rw [← hread, hflag]; rfl
  | some b => rw [← hread, hflag]; rfl

variable (hplain : HasPlainMaps given)

include hplain

/-- A map of strings is sent as the text of what is given. -/
theorem mapText?_of_fits (name : String) (hmem : (name, IsMapOf IsString) ∈ domains)
    (hname : name ∈ ["buildArgs", "labels", "containerLimits"]) :
    (mapText? ((given.get? name).bind (Options.mapOf Json.string?))).map Json.string =
      (given.get? name).bind filledText := by
  rw [map_mapText?, readsBack_string.mapOf.map_bind]
  exact fun value hvalue => ⟨domain_of_fits hfits hmem value hvalue, hplain name hname value hvalue⟩

/-- Under every name the limits are those that are given. -/
theorem get?_limits_of_fits (name : String) :
    ((((given.get? "containerLimits").bind (Options.mapOf Options.limitOf)).getD []).get? name).map
        Limit.toJson = (given.get? "containerLimits").bind (·.get? name) := by
  have hdomain : ∀ value, given.get? "containerLimits" = some value →
      IsMapOf IsLimit value ∧ IsPlain value := by
    intro value hvalue
    have hlimits : IsLimits value := domain_of_fits hfits (by simp [domains]) value hvalue
    obtain ⟨members, rfl, hmembers⟩ := hlimits
    exact ⟨⟨members, rfl, fun m hm => (hmembers m hm).2⟩, hplain _ (by simp) _ hvalue⟩
  have hread := readsBack_limit.mapOf.map_bind hdomain
  generalize (given.get? "containerLimits").bind (Options.mapOf Options.limitOf) = read at hread ⊢
  rw [← hread]
  cases read with
  | none => rfl
  | some limits => exact (Members.get?_map Limit.toJson limits name).symm

/-- The parameters of options in their domains are the rows that have a value. -/
theorem toJson_ofOptions (dockerfile remote : Option String) :
    (Params.ofOptions (Options.ofMembers given) dockerfile remote).toJson =
      .object (queryOf given dockerfile remote) := by
  have hflag := fun name hmem => bool_getD_flagOf hfits name hmem
  have htag : ((given.get? "tag").bind Json.string?).elim .null .string =
      (given.get? "tag").getD .null := by
    have hread := map_read_of_fits hfits readsBack_string "tag" (by simp [domains])
    generalize (given.get? "tag").bind Json.string? = tag at hread ⊢
    rw [← hread]
    cases tag <;> rfl
  have htext := fun name hmem => map_read_of_fits hfits readsBack_filledString name hmem
  have hmap := fun name hmem => mapText?_of_fits hfits hplain name hmem
  have hcache : (listText? ((given.get? "cacheFrom").bind Options.listOf)).map Json.string =
      (given.get? "cacheFrom").bind filledText := by
    rw [map_listText?, map_read_of_fits hfits readsBack_list "cacheFrom" (by simp [domains])]
  have hshm := map_read_of_fits hfits readsBack_positiveInteger "shmSize" (by simp [domains])
  have hlimits := fun name => get?_limits_of_fits hfits hplain name
  -- parameter by parameter, what was read from the options gives way to what was given
  rw [Params.toJson, Params.ofOptions, Options.ofMembers, queryOf, rowsOf, Json.object.injEq]
  simp only [Members.made_append, Members.made_cons, id_eq, map_orderedLimits, hlimits]
  rw [htag, hflag "quiet" (by simp [domains]), hflag "rm" (by simp [domains]),
    hflag "noCache" (by simp [domains]), hflag "pull" (by simp [domains]),
    hflag "forceRm" (by simp [domains]),
    map_toList_of_map_eq (hmap "buildArgs" (by simp [domains]) (by simp)) "buildargs",
    map_toList_of_map_eq (hmap "labels" (by simp [domains]) (by simp)) "labels",
    map_toList_of_map_eq hcache "cachefrom",
    map_toList_of_map_eq (htext "target" (by simp [domains])) "target",
    map_toList_of_map_eq (htext "platform" (by simp [domains])) "platform",
    map_toList_of_map_eq (htext "networkMode" (by simp [domains])) "networkmode",
    map_toList_of_map_eq hshm "shmsize"]
  simp [textOrNull, Members.made]

end Fitting

/-! ### The outcome -/

/-- The name of the Dockerfile is empty or has a NUL in it. -/
def HasBadDockerfile (given : Members Json) : Prop :=
  ∃ name, given.get? "dockerfile" = some (.string name) ∧ (name = "" ∨ '\x00' ∈ name.toList)

/-- An option is given with a value outside its domain. -/
def HasMisfit (given : Members Json) : Prop := ∃ option ∈ domains, IsMisfit given option

/-- The tag is a string outside the grammar of tags. -/
def HasBadTag (given : Members Json) : Prop :=
  ∃ tag, given.get? "tag" = some (.string tag) ∧ isValidTag tag = false

/-- What comes of options: the first of the three checks that does not pass refuses them, and when
    all pass they get the parameters that have a value. -/
inductive HasOutcome (given : Members Json) (dockerfile remote : Option String) :
    Except Failure Params → Prop
  | dockerfile {e : ClientError} (hfile : HasBadDockerfile given)
    (hkind : e.kind = .invalidDockerfileSpec) :
    HasOutcome given dockerfile remote (.error (.client e))
  | form {issue : Issue} {name : String} (hfile : ¬ HasBadDockerfile given)
    (hname : issue.path.head? = some name) (hfirst : IsFirstMisfit given name) :
    HasOutcome given dockerfile remote (.error (.client (.invalidOption issue)))
  | tag {tag : String} (hfile : ¬ HasBadDockerfile given) (hfits : ¬ HasMisfit given)
    (htag : given.get? "tag" = some (.string tag)) (hbad : isValidTag tag = false) :
    HasOutcome given dockerfile remote (.error (.client (.invalidTag tag)))
  | ok {params : Params} (hfile : ¬ HasBadDockerfile given) (hfits : ¬ HasMisfit given)
    (hgood : ¬ HasBadTag given)
    (hquery : params.toJson = .object (queryOf given dockerfile remote)) :
    HasOutcome given dockerfile remote (.ok params)

section Outcome

variable {given : Members Json} (dockerfile remote : Option String)

/-- A text for the Dockerfile passes its check unless it is bad. -/
theorem dockerfileFailure?_eq_none (htext : HasTextDockerfile (.object given))
    (hfile : ¬ HasBadDockerfile given) :
    ((Json.object given).get? "dockerfile").bind Options.dockerfileFailure? = none := by
  rw [get?_object]
  cases hvalue : given.get? "dockerfile" with
  | none => rfl
  | some value =>
    have hkind : value.kind = .string := htext value hvalue
    cases value with
    | string name =>
      have hname : ¬ (name = "" ∨ '\x00' ∈ name.toList) := fun h => hfile ⟨name, hvalue, h⟩
      rw [Option.bind_some, Options.dockerfileFailure?, (dockerfileError?_eq_none_iff name).2 hname]
      rfl
    | _ => cases hkind

/-- The checks decide in their order. -/
theorem outcome_of_options (hplain : HasPlainMaps given)
    (htext : HasTextDockerfile (.object given)) :
    HasOutcome given dockerfile remote (paramsOf (.object given) dockerfile remote) := by
  -- the checks in their order: the Dockerfile, the domains, the tag
  by_cases hfile : HasBadDockerfile given
  · obtain ⟨name, hgiven, hname⟩ := hfile
    have hgiven' : (Json.object given).get? "dockerfile" = some (.string name) := hgiven
    obtain ⟨e, he, hkind⟩ := invalidDockerfile_of_name hgiven' hname dockerfile remote
    rw [he]
    exact .dockerfile ⟨name, hgiven, hname⟩ hkind
  have hpasses := dockerfileFailure?_eq_none htext hfile
  rcases issue?_cases hplain with ⟨hnone, hfits⟩ | ⟨issue, name, hissue, hname, hfirst⟩
  · have hmisfit : ¬ HasMisfit given := by
      rintro ⟨option, hmem, hmisfit⟩
      exact hfits option hmem hmisfit
    by_cases hbad : HasBadTag given
    · obtain ⟨tag, htag, hinvalid⟩ := hbad
      have hread : (Options.ofMembers given).tag = some tag := by
        show (given.get? "tag").bind Json.string? = some tag
        rw [htag]
        rfl
      have hrefused : paramsOf (.object given) dockerfile remote =
          .error (.client (.invalidTag tag)) := by
        rw [paramsOf, if_neg (by simp [Json.kind]), hpasses]
        simp only [Options.check, hnone, Json.members?, Option.getD_some, hread]
        rw [if_neg (by simp [hinvalid])]
      rw [hrefused]
      exact .tag hfile hmisfit htag hinvalid
    · have haccepted : Accepted (.object given) := by
        refine ⟨hpasses, hnone, fun tag htag => ?_⟩
        by_contra hinvalid
        exact hbad ⟨tag, htag, by simpa using hinvalid⟩
      rw [ok_of_accepted haccepted]
      exact .ok hfile hmisfit hbad (toJson_ofOptions hfits hplain dockerfile remote)
  · have hrefused : paramsOf (.object given) dockerfile remote =
        .error (.client (.invalidOption issue)) := by
      rw [paramsOf, if_neg (by simp [Json.kind]), hpasses]
      simp only [Options.check, hissue]
    rw [hrefused]
    exact .form hfile hname hfirst

/-- **Options.**  Build options whose Dockerfile is a text are refused as a Dockerfile exactly when
    its name is empty or has a NUL in it.  Otherwise they are refused as parameters exactly when one
    of them is given with a value outside its domain, and then the first of these is named, or when
    the tag is outside the grammar of tags, which only counts when all values are in their domains.
    All others get the parameters that the options give a value, each under its own name, and no
    more. -/
theorem query_of_options (hplain : HasPlainMaps given) (htext : HasTextDockerfile (.object given)) :
    ((∃ e, paramsOf (.object given) dockerfile remote = .error (.client e) ∧
        e.kind = .invalidDockerfileSpec) ↔ HasBadDockerfile given) ∧
    ((∃ e, paramsOf (.object given) dockerfile remote = .error (.client e) ∧
        e.kind = .buildParam) ↔
      ¬ HasBadDockerfile given ∧ (HasMisfit given ∨ HasBadTag given)) ∧
    (¬ HasBadDockerfile given → HasMisfit given → ∃ issue name,
      paramsOf (.object given) dockerfile remote = .error (.client (.invalidOption issue)) ∧
        issue.path.head? = some name ∧ IsFirstMisfit given name) ∧
    (¬ HasBadDockerfile given → ¬ HasMisfit given → HasBadTag given → ∃ tag,
      paramsOf (.object given) dockerfile remote = .error (.client (.invalidTag tag)) ∧
        given.get? "tag" = some (.string tag)) ∧
    (¬ HasBadDockerfile given → ¬ HasMisfit given → ¬ HasBadTag given → ∃ params,
      paramsOf (.object given) dockerfile remote = .ok params ∧
        params.toJson = .object (queryOf given dockerfile remote) ∧
        ∀ row ∈ rowsOf given dockerfile remote, params.toJson.get? row.1 = row.2) := by
  have houtcome := outcome_of_options dockerfile remote hplain htext
  generalize paramsOf (.object given) dockerfile remote = result at houtcome ⊢
  cases houtcome with
  | @dockerfile e hfile hkind =>
    refine ⟨iff_of_true ⟨e, rfl, hkind⟩ hfile, iff_of_false ?_ fun h => h.1 hfile,
      fun h => absurd hfile h, fun h => absurd hfile h, fun h => absurd hfile h⟩
    rintro ⟨e', he', hkind'⟩
    cases he'
    rw [hkind] at hkind'
    cases hkind'
  | @form issue name hfile hname hfirst =>
    obtain ⟨before, option, after, hall, rfl, hmisfit, hbefore⟩ := hfirst
    have hhas : HasMisfit given := ⟨option, by rw [hall]; simp, hmisfit⟩
    refine ⟨iff_of_false ?_ hfile, iff_of_true ⟨_, rfl, rfl⟩ ⟨hfile, .inl hhas⟩,
      fun _ _ => ⟨issue, option.1, rfl, hname, before, option, after, hall, rfl, hmisfit, hbefore⟩,
      fun _ h => absurd hhas h, fun _ h => absurd hhas h⟩
    rintro ⟨e, he, hkind⟩
    cases he
    cases hkind
  | @tag tag hfile hfits htag hbad =>
    have hhas : HasBadTag given := ⟨tag, htag, hbad⟩
    refine ⟨iff_of_false ?_ hfile, iff_of_true ⟨_, rfl, rfl⟩ ⟨hfile, .inr hhas⟩,
      fun _ h => absurd h hfits, fun _ _ _ => ⟨tag, rfl, htag⟩, fun _ _ h => absurd hhas h⟩
    rintro ⟨e, he, hkind⟩
    cases he
    cases hkind
  | @ok params hfile hfits hgood hquery =>
    refine ⟨iff_of_false ?_ hfile, iff_of_false ?_ fun h => h.2.elim hfits hgood,
      fun _ h => absurd h hfits, fun _ _ h => absurd h hgood,
      fun _ _ _ => ⟨params, rfl, hquery, fun row hrow => ?_⟩⟩
    · rintro ⟨e, he, -⟩
      cases he
    · rintro ⟨e, he, -⟩
      cases he
    · rw [hquery, get?_object]
      exact Members.get?_made_of_mem (nodup_names_rowsOf given dockerfile remote) hrow

end Outcome

/-- Options with a limit, without labels, and with the given size of the shared memory. -/
def limitedOptions (shmSize : Number) : Members Json :=
  [("tag", .string "team/app:1"), ("quiet", .bool true), ("labels", .object []),
    ("shmSize", .number shmSize), ("cacheFrom", .array [.string "a"]),
    ("containerLimits", .object [("cpushares", .string "512")])]

/-- Such options have no reserved names, and a Dockerfile that is a text as far as there is one. -/
theorem plain_limitedOptions (shmSize : Number) :
    HasPlainMaps (limitedOptions shmSize) ∧
      HasTextDockerfile (.object (limitedOptions shmSize)) := by
  constructor
  · intro option hoption value hvalue members hmembers
    subst hmembers
    simp only [List.mem_cons, List.not_mem_nil, or_false] at hoption
    rcases hoption with rfl | rfl | rfl <;> cases hvalue <;> decide
  · intro value hvalue
    cases hvalue

/-- With a megabyte of shared memory all of them are sent, and with none they are refused. -/
theorem limits_sent_unless_size_zero :
    (∃ params, paramsOf (.object (limitedOptions 1048576)) (some "Dockerfile") none = .ok params ∧
      params.toJson.get? "cpushares" = some (.string "512") ∧
      params.toJson.get? "memory" = none ∧
      params.toJson.get? "cachefrom" = some (.string "[\"a\"]") ∧
      params.toJson.get? "labels" = none) ∧
    ∃ issue name, paramsOf (.object (limitedOptions 0)) none none =
        .error (.client (.invalidOption issue)) ∧
      issue.path.head? = some name ∧ IsFirstMisfit (limitedOptions 0) name := by
  have hfile : ∀ size, ¬ HasBadDockerfile (limitedOptions size) := by
    rintro size ⟨name, hname, -⟩
    cases hname
  obtain ⟨hplain, htext⟩ := plain_limitedOptions 1048576
  obtain ⟨hplain', htext'⟩ := plain_limitedOptions 0
  constructor
  · have hissue : Options.issue? (.object (limitedOptions 1048576)) = none := by decide +kernel
    have hfits : ¬ HasMisfit (limitedOptions 1048576) := by
      rintro ⟨option, hmem, hmisfit⟩
      rcases issue?_cases hplain with ⟨-, hnone⟩ | ⟨issue, name, hfound, -⟩
      · exact hnone option hmem hmisfit
      · rw [hissue] at hfound
        cases hfound
    have hgood : ¬ HasBadTag (limitedOptions 1048576) := by
      rintro ⟨tag, htag, hbad⟩
      cases htag
      revert hbad
      decide
    obtain ⟨params, hparams, hquery, -⟩ :=
      (query_of_options (some "Dockerfile") none hplain htext).2.2.2.2 (hfile _) hfits hgood
    refine ⟨params, hparams, ?_⟩
    rw [hquery]
    exact ⟨by rfl, by rfl, by rfl, by rfl⟩
  · have hzero : ¬ IsPositiveInteger (.number 0) := by
      rw [← admits_positiveInteger]
      decide +kernel
    exact (query_of_options none none hplain' htext').2.2.1 (hfile 0)
      ⟨("shmSize", IsPositiveInteger), by simp [domains], .number 0, by rfl, hzero⟩

end ImageBuild.Request
