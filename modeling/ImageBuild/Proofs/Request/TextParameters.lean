import ImageBuild.Proofs.Json.RoundTrip
import ImageBuild.Proofs.Request.Query

namespace ImageBuild.Request

/-!
# Text parameters — maps and lists that travel as JSON text

The reserved name is passed over in every map among the options.  So what is read from options is
what is read from the same options less this name (`plainOptions`), which are in their domains when
the options are accepted.

* `toJson_of_paramsOf` — the parameters of all accepted options are the rows of these.
* `get?_of_mem_textParameters` — a text parameter depends on its own option only.
* `text_parameters_lose_nothing` — and its text is read again as what the option was given.
-/

/-- The options that travel as JSON text, and the parameters that carry them. -/
def textParameters : List (String × String) :=
  [("buildArgs", "buildargs"), ("labels", "labels"), ("cacheFrom", "cachefrom")]

/-- A value less its member under the reserved name. -/
def plain : Json → Json
  | .object members => .object (Members.erase members Members.reservedName)
  | value => value

/-- Options less the members of their values under the reserved name. -/
def plainOptions (given : Members Json) : Members Json := given.map fun m => (m.1, plain m.2)

/-- An object or an array that holds nothing. -/
def HoldsNothing (value : Json) : Prop := value = .object [] ∨ value = .array []

/-- An object lists its members in order, as all objects do that are read from a text. -/
def ListsInOrder (value : Json) : Prop :=
  ∀ members : Members Json, value = .object members → members.IsListed

/-- The rows of the text parameters. -/
def textRows (given : Members Json) : List (String × Option Json) :=
  textParameters.map fun row => (row.2, (given.get? row.1).bind filledText)

/-! ### Options less the reserved name -/

/-- Nothing is left under the reserved name. -/
theorem isPlain_plain (value : Json) : IsPlain (plain value) := by
  intro members heq
  cases value with
  | object ms =>
    cases heq
    intro hmem
    obtain ⟨m, hm, hname⟩ := List.mem_map.1 hmem
    exact Members.ne_of_mem_erase hm hname
  | _ => cases heq

/-- Under every name is what was given, less the reserved name. -/
theorem get?_plainOptions (given : Members Json) (name : String) :
    (plainOptions given).get? name = (given.get? name).map plain :=
  Members.get?_map plain given name

/-- Nothing is left under the reserved name in maps. -/
theorem hasPlainMaps_plainOptions (given : Members Json) : HasPlainMaps (plainOptions given) := by
  intro option _ value hvalue
  rw [get?_plainOptions] at hvalue
  obtain ⟨v, -, rfl⟩ := Option.map_eq_some_iff.1 hvalue
  exact isPlain_plain v

/-- A map is read without the reserved name. -/
theorem mapOf_plain {α : Type} (read : Json → Option α) (value : Json) :
    Options.mapOf read (plain value) = Options.mapOf read value := by
  cases value with
  | object members =>
    simp only [plain, Options.mapOf, Json.members?, Option.map_some, Members.erase_erase]
  | _ => rfl

/-- What is read from options is what is read from them less the reserved name. -/
theorem ofMembers_plainOptions (given : Members Json) :
    Options.ofMembers (plainOptions given) = Options.ofMembers given := by
  have hread : ∀ {α : Type} {read : Json → Option α}, (∀ value, read (plain value) = read value) →
      ∀ name, ((plainOptions given).get? name).bind read = (given.get? name).bind read := by
    intro α read hplain name
    rw [get?_plainOptions]
    cases given.get? name with
    | none => rfl
    | some value => exact hplain value
  have hstring : ∀ value, Json.string? (plain value) = Json.string? value := by
    intro value
    cases value <;> rfl
  have hflag : ∀ value, Options.flagOf (plain value) = Options.flagOf value := by
    intro value
    cases value <;> rfl
  have hnumber : ∀ value, Options.numberOf (plain value) = Options.numberOf value := by
    intro value
    cases value <;> rfl
  have hlist : ∀ value, Options.listOf (plain value) = Options.listOf value := by
    intro value
    cases value <;> rfl
  simp only [Options.ofMembers, hread hstring, hread hflag, hread hnumber, hread hlist,
    hread (mapOf_plain Json.string?), hread (mapOf_plain Options.limitOf)]

/-- Where a check passes on a value, it passes on the value less the reserved name. -/
def KeepsPlain (form : Form) : Prop := ∀ value, form value = none → form (plain value) = none

/-- Leaving a member out breaks no check of a map. -/
theorem keepsPlain_members (form : Form) : KeepsPlain (.members form) := by
  intro value h
  cases value with
  | object members =>
    rw [Form.members, List.findSome?_eq_none_iff] at h
    rw [plain, Form.members, List.findSome?_eq_none_iff]
    exact fun m hm => h m (List.mem_filter.1 hm).1
  | _ => exact h

/-- Leaving the reserved name out breaks no check of limits, which passes over it. -/
theorem keepsPlain_limits : KeepsPlain .limits := by
  intro value h
  rw [Form.limits, Option.or_eq_none_iff] at h ⊢
  refine ⟨keepsPlain_members .limit value h.1, ?_⟩
  cases value with
  | object members => simpa [plain, Json.members?, Members.erase_erase] using h.2
  | _ => exact h.2

/-- Leaving the reserved name out breaks no check of an option. -/
theorem keepsPlain_forms : ∀ checked ∈ Options.forms, KeepsPlain checked.2 := by
  -- any other check passes on no object, and other values are as they were
  have hother : ∀ form : Form, (∀ members, form (.object members) ≠ none) → KeepsPlain form := by
    intro form hobject value h
    cases value with
    | object members => exact absurd h (hobject members)
    | _ => exact h
  have hstring : KeepsPlain .string := hother _ fun _ => here_ne_none _
  have hflag : KeepsPlain .flag := hother _ fun _ => here_ne_none _
  have hfilled : KeepsPlain .filledString := hother _ fun _ => here_ne_none _
  have hpositive : KeepsPlain .positiveInteger := hother _ fun _ => here_ne_none _
  have hitems : KeepsPlain (.items .filledString) := hother _ fun _ => here_ne_none _
  have hmap : KeepsPlain (.members .string) := keepsPlain_members .string
  simp only [Options.forms, List.forall_mem_cons, List.not_mem_nil, false_implies, implies_true,
    and_true]
  exact ⟨hstring, hflag, hflag, hflag, hflag, hflag, hmap, hmap, hfilled, hfilled, hfilled,
    hpositive, hitems, keepsPlain_limits⟩

/-- Options without issues have none without the reserved name. -/
theorem issue?_plainOptions {given : Members Json} (h : Options.issue? (.object given) = none) :
    Options.issue? (.object (plainOptions given)) = none := by
  rw [Options.issue?, Options.memberIssue?, List.findSome?_eq_none_iff]
  rintro ⟨name, form⟩ hform
  show ((plainOptions given).get? name).bind _ = none
  rw [get?_plainOptions]
  cases hvalue : given.get? name with
  | none => rfl
  | some value =>
    have hpasses : form value = none := form_eq_none h hform hvalue
    exact within_eq_none_iff.2 (keepsPlain_forms _ hform value hpasses)

/-- **Parameters.** The parameters of accepted options are the rows of these options less the
    reserved name that have a value. -/
theorem toJson_of_paramsOf {given : Members Json} {dockerfile remote : Option String}
    {params : Params} (h : paramsOf (.object given) dockerfile remote = .ok params) :
    params.toJson = .object (queryOf (plainOptions given) dockerfile remote) := by
  -- no check is broken by leaving the reserved name out, and nothing that is read is lost
  have hissue : Options.issue? (.object (plainOptions given)) = none :=
    issue?_plainOptions (accepted_of_paramsOf h).forms
  have hplain : HasPlainMaps (plainOptions given) := hasPlainMaps_plainOptions given
  have hfits : ∀ option ∈ domains, ¬ IsMisfit (plainOptions given) option := by
    rcases issue?_cases hplain with ⟨-, hfits⟩ | ⟨issue, name, hfound, -⟩
    · exact hfits
    · rw [hissue] at hfound
      cases hfound
  rw [eq_ofOptions_of_paramsOf h, ← toJson_ofOptions hfits hplain]
  simp only [Json.members?, Option.getD_some, ofMembers_plainOptions]

/-! ### Text parameters -/

/-- Only what holds nothing has no text. -/
theorem filledText_eq_none_iff {value : Json} : filledText value = none ↔ HoldsNothing value := by
  unfold filledText HoldsNothing
  split <;> simp_all

/-- The text of a map or a list is read again as this value. -/
theorem parse?_of_filledText {value sent : Json} (hvalue : value.IsTextual)
    (h : filledText value = some sent) :
    ∃ text, sent = .string text ∧ Json.parse? text.toList = some value := by
  unfold filledText at h
  split at h
  · cases h
  · cases h
  · cases h
    refine ⟨value.text, rfl, ?_⟩
    rw [Json.text, String.toList_ofList, Json.parse?_print hvalue]

section Accepted

variable {given : Json} {dockerfile remote : Option String} {params : Params}
  (h : paramsOf given dockerfile remote = .ok params)

include h

/-- Every text parameter carries the text of its option, less the reserved name. -/
theorem get?_of_mem_textParameters {row : String × String} (hrow : row ∈ textParameters) :
    params.toJson.get? row.2 = (given.get? row.1).bind fun value => filledText (plain value) := by
  obtain ⟨members, rfl⟩ := (accepted_of_paramsOf h).exists_members
  have hmem : (row.2, ((plainOptions members).get? row.1).bind filledText) ∈
      rowsOf (plainOptions members) dockerfile remote := by
    simp only [textParameters, List.mem_cons, List.not_mem_nil, or_false] at hrow
    rcases hrow with rfl | rfl | rfl <;> simp [rowsOf]
  have hget : (queryOf (plainOptions members) dockerfile remote).get? row.2 =
      ((plainOptions members).get? row.1).bind filledText :=
    Members.get?_made_of_mem (nodup_names_rowsOf _ dockerfile remote) hmem
  rw [toJson_of_paramsOf h, get?_object, hget, get?_plainOptions, Option.bind_map]
  rfl

/-- The text parameters are the texts of maps of strings and lists of strings. -/
theorem isTextual_of_mem_textParameters {row : String × String} (hrow : row ∈ textParameters)
    {value : Json} (hvalue : given.get? row.1 = some value) (hlisted : ListsInOrder value) :
    (plain value).IsTextual := by
  have hissue : Options.issue? given = none := (accepted_of_paramsOf h).forms
  have hmap : ∀ {name}, (name, Form.members .string) ∈ Options.forms →
      given.get? name = some value → (plain value).IsTextual := by
    intro name hform hget
    obtain ⟨members, rfl, hmembers⟩ :=
      (admits_string.members value).1 (form_eq_none hissue hform hget)
    refine .object ((hlisted members rfl).erase Members.reservedName) fun m hm => ?_
    obtain ⟨s, hs⟩ := hmembers m (List.mem_filter.1 hm).1
    rw [hs]
    exact .string s
  simp only [textParameters, List.mem_cons, List.not_mem_nil, or_false] at hrow
  rcases hrow with rfl | rfl | rfl
  · exact hmap (by simp [Options.forms]) hvalue
  · exact hmap (by simp [Options.forms]) hvalue
  · have hform : ("cacheFrom", Form.items .filledString) ∈ Options.forms := by
      simp [Options.forms]
    obtain ⟨items, rfl, hitems⟩ :=
      (admits_filledString.items value).1 (form_eq_none hissue hform hvalue)
    refine .array fun item hitem => ?_
    obtain ⟨s, -, hs⟩ := hitems item hitem
    rw [hs]
    exact .string s

end Accepted

/-- Options that agree but for the text parameters have the same rows but for these. -/
theorem exists_rowsOf_eq {given given' : Members Json}
    (hagree : ∀ option, option ∉ textParameters.map (·.1) → given'.get? option = given.get? option)
    (dockerfile remote : Option String) : ∃ front back,
      rowsOf given dockerfile remote = front ++ textRows given ++ back ∧
      rowsOf given' dockerfile remote = front ++ textRows given' ++ back := by
  refine ⟨(rowsOf given dockerfile remote).take 12, (rowsOf given dockerfile remote).drop 15,
    rfl, ?_⟩
  simp only [rowsOf, hagree "tag" (by decide), hagree "quiet" (by decide), hagree "rm" (by decide),
    hagree "noCache" (by decide), hagree "pull" (by decide), hagree "forceRm" (by decide),
    hagree "containerLimits" (by decide), hagree "target" (by decide),
    hagree "platform" (by decide), hagree "networkMode" (by decide), hagree "shmSize" (by decide)]
  rfl

/-- No other parameter is found among the text parameters. -/
theorem get?_made_textRows (given : Members Json) {parameter : String}
    (hother : parameter ∉ textParameters.map (·.2)) :
    (Members.made id (textRows given)).get? parameter = none := by
  have hnames : (textRows given).map (·.1) = textParameters.map (·.2) := by
    rw [textRows, List.map_map]
    rfl
  rw [← Option.not_isSome_iff_eq_none]
  intro hsome
  have hmem : parameter ∈ (Members.made id (textRows given)).names :=
    Members.has_iff_mem_names.1 hsome
  exact hother (hnames ▸ (Members.names_made_sublist (textRows given)).subset hmem)

/-- **Text parameters.** Of accepted options, a map or a list is sent exactly when it holds
    something besides the reserved name, and its text is read again as the map or list less this
    name, with all members or items in their order.  The parameter is the same for all accepted
    options with the same value, and options that agree in all others get the same other parameters,
    whatever their maps and lists are. -/
theorem text_parameters_lose_nothing {given : Json} {dockerfile remote : Option String}
    {params : Params} (h : paramsOf given dockerfile remote = .ok params) :
    (∀ row ∈ textParameters,
      (params.toJson.get? row.2 = none ↔
        ∀ value, given.get? row.1 = some value → HoldsNothing (plain value)) ∧
      (∀ value, given.get? row.1 = some value → ¬ HoldsNothing (plain value) →
        ListsInOrder value → ∃ text, params.toJson.get? row.2 = some (.string text) ∧
          Json.parse? text.toList = some (plain value)) ∧
      ∀ given' dockerfile' remote' params', paramsOf given' dockerfile' remote' = .ok params' →
        given'.get? row.1 = given.get? row.1 →
          params'.toJson.get? row.2 = params.toJson.get? row.2) ∧
    ∀ given' params', paramsOf given' dockerfile remote = .ok params' →
      (∀ option, option ∉ textParameters.map (·.1) → given'.get? option = given.get? option) →
        ∀ parameter, parameter ∉ textParameters.map (·.2) →
          params'.toJson.get? parameter = params.toJson.get? parameter := by
  constructor
  · intro row hrow
    have hget := get?_of_mem_textParameters h hrow
    refine ⟨?_, ?_, ?_⟩
    · simp only [hget, Option.bind_eq_none_iff, filledText_eq_none_iff]
    · intro value hvalue hholds hlisted
      have htextual := isTextual_of_mem_textParameters h hrow hvalue hlisted
      rw [hget, hvalue, Option.bind_some]
      cases hsent : filledText (plain value) with
      | none => exact absurd (filledText_eq_none_iff.1 hsent) hholds
      | some sent =>
        obtain ⟨text, rfl, hparse⟩ := parse?_of_filledText htextual hsent
        exact ⟨text, rfl, hparse⟩
    · intro given' dockerfile' remote' params' h' hsame
      rw [get?_of_mem_textParameters h' hrow, hsame, hget]
  · intro given' params' h' hagree parameter hother
    obtain ⟨members, rfl⟩ := (accepted_of_paramsOf h).exists_members
    obtain ⟨members', rfl⟩ := (accepted_of_paramsOf h').exists_members
    have hplain : ∀ option, option ∉ textParameters.map (·.1) →
        (plainOptions members').get? option = (plainOptions members).get? option := by
      intro option hoption
      have hsame : members'.get? option = members.get? option := hagree option hoption
      rw [get?_plainOptions, get?_plainOptions, hsame]
    -- the rows differ in the text parameters, where no other one is found
    obtain ⟨front, back, hrows, hrows'⟩ := exists_rowsOf_eq hplain dockerfile remote
    rw [toJson_of_paramsOf h, toJson_of_paramsOf h', get?_object, get?_object, queryOf, queryOf,
      hrows, hrows']
    simp only [Members.made_append, Members.get?_append, get?_made_textRows _ hother,
      Option.or_none]

/-- Options with quotes, a backslash and a line break in their texts, with the reserved name in a
    map, and with the given labels. -/
def quotedOptions (labels : Members Json) : Members Json :=
  [("tag", .string "app:1"),
    ("buildArgs", .object [("K\"", .string "a\\b\n"), ("__proto__", .string "p"),
      ("é", .string "=")]),
    ("labels", .object labels), ("cacheFrom", .array [.string "a,\"b"])]

/-- The map is read again less the reserved name, whatever the labels are; and labels without any
    are not sent. -/
theorem quoted_texts_read_again :
    ∃ params params', paramsOf (.object (quotedOptions [])) none none = .ok params ∧
      paramsOf (.object (quotedOptions [("l", .string "1")])) none none = .ok params' ∧
      (∃ text, params.toJson.get? "buildargs" = some (.string text) ∧
        Json.parse? text.toList =
          some (.object [("K\"", .string "a\\b\n"), ("é", .string "=")])) ∧
      params.toJson.get? "labels" = none ∧
      params'.toJson.get? "buildargs" = params.toJson.get? "buildargs" ∧
      params'.toJson.get? "t" = params.toJson.get? "t" := by
  have haccepted : ∀ labels, Options.issue? (.object (quotedOptions labels)) = none →
      Accepted (.object (quotedOptions labels)) := by
    refine fun labels hissue => ⟨rfl, hissue, ?_⟩
    rintro tag ⟨⟩
    decide
  have hnone := haccepted [] (by decide +kernel)
  have hone := haccepted [("l", .string "1")] (by decide +kernel)
  have hargs : ("buildArgs", "buildargs") ∈ textParameters := by decide
  have hlabels : ("labels", "labels") ∈ textParameters := by decide
  obtain ⟨htext, hother⟩ := text_parameters_lose_nothing (ok_of_accepted hnone none none)
  obtain ⟨-, hparsed, hsame⟩ := htext _ hargs
  refine ⟨_, _, ok_of_accepted hnone none none, ok_of_accepted hone none none, ?_, ?_, ?_, ?_⟩
  · refine hparsed _ rfl ?_ ?_
    · rintro (hnil | hnil) <;> cases hnil
    · rintro members ⟨⟩
      decide
  · refine (htext _ hlabels).1.2 ?_
    rintro value ⟨⟩
    exact .inl rfl
  · exact hsame _ none none _ (ok_of_accepted hone none none) rfl
  · refine hother _ _ (ok_of_accepted hone none none) (fun option hoption => ?_) "t" (by decide)
    have hne : option ≠ "labels" := by
      rintro rfl
      exact hoption (by decide)
    simp [quotedOptions, Members.get?_cons, hne]

end ImageBuild.Request
