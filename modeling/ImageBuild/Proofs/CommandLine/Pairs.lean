import ImageBuild.Proofs.CommandLine.Parameters
import ImageBuild.Proofs.Session

namespace ImageBuild.CommandLine

/-!
# Repeated options — what the pairs on a command line give, or how they end a build

* `collected_ofGiven` — each repeated option collects its values in order.
* `optionsOf_ofGiven` — the first of the collected texts that offends is the defect of the options
  of a build; without one the options hold the maps that the texts give.
* `run_runBuild_of_isFirst` — in the first case the build ends at once, and tells of that text.
* `pairs_of_repeated_option` — hence what is given, told or refused, for all values of an option.
-/

open ImageBuild.Request

/-- What an option has collected after some values. -/
def collected (values : List String) : Option (List String) :=
  values.foldl (fun previous value => some (collect value previous)) none

/-- What an option has collected as a value; nothing where the option is not used. -/
def textsJson (given : Option (List String)) : Option Json :=
  given.map fun texts => .array (texts.map .string)

/-- The values that an option is given on a command line. -/
def valuesOf (option : String) (given : List Given) : List String :=
  given.filterMap fun g => if g.option.long = option then g.value else none

/-- The texts that a command line gives for pairs, each with its option, in the order in which they
    are read. -/
def givenPairs (given : List Given) : List (String × String) :=
  (valuesOf "build-arg" given).map (("build-arg", ·)) ++ (valuesOf "label" given).map (("label", ·))

/-! ### What options collect and give -/

/-- An option without values has collected nothing, and any other one its values. -/
theorem collected_eq (values : List String) :
    collected values = if values = [] then none else some values := by
  -- induction on the values after the first, for whatever was collected before them
  have hrest : ∀ rest before : List String,
      rest.foldl (fun previous value => some (collect value previous)) (some before) =
        some (before ++ rest) := by
    intro rest
    induction rest with
    | nil => simp
    | cons value rest ih =>
      intro before
      rw [List.foldl_cons, ih, collect]
      simp
  cases values with
  | nil => rfl
  | cons value rest =>
    rw [collected, List.foldl_cons, hrest]
    rfl

/-- The values that an option has collected, if any, are those that it was given. -/
theorem getD_collected (values : List String) : (collected values).getD [] = values := by
  rw [collected_eq]
  split
  · simp_all
  · rfl

/-- What an option has collected is a list of texts. -/
theorem isListOf_textsJson (given : Option (List String)) :
    IsListOf (textsJson given) (given.getD []) := by
  cases given with
  | none => exact .inr ⟨rfl, rfl⟩
  | some texts => exact .inl rfl

/-- The map that a repeated option gives, or the first of its texts that offends. -/
theorem pairsOf_textsJson (option : String) (given : Option (List String)) :
    pairsOf option (textsJson given) = match (given.getD []).find? (Offends ·) with
      | some text => .error (.badPair option text)
      | none => .ok (mapOfTexts (given.getD [])) := by
  rw [pairsOf, pairs?_of_isListOf (isListOf_textsJson given)]
  cases (given.getD []).find? (Offends ·) <;> rfl

/-- Only where there are no texts a repeated option gives no map. -/
theorem pairsOf_eq_none_iff {option : String} {given : Option (List String)} :
    pairsOf option (textsJson given) = .ok none ↔ given = none ∨ given = some [] := by
  rw [pairsOf_textsJson]
  rcases given with _ | _ | ⟨text, rest⟩
  · simp [mapOfTexts]
  · simp [mapOfTexts]
  · rw [Option.getD_some, mapOfTexts, if_neg (List.cons_ne_nil text rest)]
    cases (text :: rest).find? (Offends ·) <;> simp

/-- One more option on the command line collects its value, if it is one of the repeated ones. -/
theorem collected_give (f : BuildFlags) (g : Given) :
    (f.give g).buildArgs = (valuesOf "build-arg" [g]).foldl
      (fun previous value => some (collect value previous)) f.buildArgs ∧
    (f.give g).labels = (valuesOf "label" [g]).foldl
      (fun previous value => some (collect value previous)) f.labels := by
  have hvalues : ∀ option, valuesOf option [g] =
      (if g.option.long = option then g.value else none).toList := by
    intro option
    rw [valuesOf, List.filterMap_cons]
    split <;> simp_all
  rw [hvalues, hvalues]
  unfold BuildFlags.give
  cases hvalue : g.value with
  | none => split <;> simp_all
  | some value => split <;> simp_all

/-- The flags of a command line have collected the values of the repeated options. -/
theorem collected_ofGiven (given : List Given) :
    (BuildFlags.ofGiven given).buildArgs = collected (valuesOf "build-arg" given) ∧
    (BuildFlags.ofGiven given).labels = collected (valuesOf "label" given) := by
  rw [BuildFlags.ofGiven]
  induction given using List.reverseRecOn with
  | nil => exact ⟨rfl, rfl⟩
  | append_singleton given g ih =>
    have hvalues : ∀ option, valuesOf option (given ++ [g]) =
        valuesOf option given ++ valuesOf option [g] :=
      fun option => List.filterMap_append
    obtain ⟨hargs, hlabels⟩ := collected_give (given.foldl .give {}) g
    rw [List.foldl_concat, hargs, hlabels, ih.1, ih.2, hvalues, hvalues]
    exact ⟨List.foldl_append.symm, List.foldl_append.symm⟩

/-! ### Builds -/

/-- **Options.** The first text that is given for pairs and offends is the defect of the options of
    a build, and without one the options hold the maps that the texts give. -/
theorem optionsOf_ofGiven (path : String) (given : List Given) :
    optionsOf path (BuildFlags.ofGiven given).toJson =
      match (givenPairs given).find? (Offends ·.2) with
      | some p => .error (.badPair p.1 p.2)
      | none => .ok (optionMembers path (BuildFlags.ofGiven given).toJson
          (mapOfTexts (valuesOf "build-arg" given)) (mapOfTexts (valuesOf "label" given))) := by
  obtain ⟨hargs, hlabels⟩ := collected_ofGiven given
  generalize BuildFlags.ofGiven given = f at hargs hlabels
  have hbuildArg : f.toJson.get? "buildArg" = textsJson f.buildArgs := by
    simp [BuildFlags.toJson, textsJson]
  have hlabel : f.toJson.get? "label" = textsJson f.labels := by
    simp [BuildFlags.toJson, textsJson]
  have hkind : f.toJson.kind ≠ .null := by simp [BuildFlags.toJson, Json.kind]
  rw [optionsOf, if_neg hkind, hbuildArg, hlabel, pairsOf_textsJson, pairsOf_textsJson, hargs,
    hlabels, getD_collected, getD_collected, givenPairs, List.find?_append, List.find?_map,
    List.find?_map]
  simp only [Function.comp_def]
  -- labels are read after the build arguments have passed
  cases (valuesOf "build-arg" given).find? (Offends ·) with
  | some text => rfl
  | none => cases (valuesOf "label" given).find? (Offends ·) <;> rfl

section Run

variable (path : String) {given : List Given} {s s' : Session}

/-- A build with a text that offends ends at once, and tells of the first one. -/
theorem run_runBuild_of_isFirst {option text : String}
    (h : IsFirst (Offends ·.2) (givenPairs given) (option, text)) :
    (runBuild path (.ofGiven given)).run s = (.ok (.exit 1),
      { s with verbose := (BuildFlags.ofGiven given).verbose }.record
        (.log (badPairLine option text))) := by
  have hoptions : optionsOf path (BuildFlags.ofGiven given).toJson =
      .error (.badPair option text) := by
    rw [optionsOf_ofGiven, find?_eq_some_iff_isFirst.2 h]
  -- an error is shown whether the output is verbose or not
  have hshown : ∀ verbose, (badPairLine option text).isShown verbose = true :=
    fun verbose => Bool.or_true verbose
  rw [runBuild, Action.run_modify_bind, hoptions]
  simp only
  rw [Action.run_bind, Action.run_log, if_pos (hshown _)]
  rfl

/-- A build that ends with an exit code was given a text that offends. -/
theorem exists_offends_of_exit {code : Nat}
    (h : (runBuild path (.ofGiven given)).run s = (.ok (.exit code), s')) :
    ∃ p ∈ givenPairs given, Offends p.2 := by
  by_contra hnone
  have hfind : (givenPairs given).find? (Offends ·.2) = none := by
    rw [List.find?_eq_none]
    intro p hp
    simpa using fun hoffends => hnone ⟨p, hp, hoffends⟩
  rw [runBuild, Action.run_modify_bind, optionsOf_ofGiven, hfind] at h
  simp only at h
  -- a build that is tried ends in no other way than at its end
  obtain ⟨_, _, -, h⟩ := Action.ok_of_run_bind h
  obtain ⟨_, _, -, h⟩ := Action.ok_of_run_bind h
  obtain ⟨_, _, -, h⟩ := Action.ok_of_run_bind h
  obtain ⟨_, _, -, h⟩ := Action.ok_of_run_bind h
  obtain ⟨_, _, -, h⟩ := Action.ok_of_run_bind h
  rw [Action.run_pure] at h
  cases h

end Run

/-- **Repeated pairs.** An option gives no map exactly when it is not used, or with no values; it is
    refused exactly for the first of its values that offends; and otherwise it gives a map of the
    keys of its values, each once, to the last value of each key, less the reserved name.  A build
    is ended with an exit code exactly when a value of such an option offends, after telling of the
    first one.  A key that is not empty and has no equals sign in it is read again with any value.
    -/
theorem pairs_of_repeated_option (option : String) (values : List String) :
    (∀ given : Option (List String),
      pairsOf option (textsJson given) = .ok none ↔ given = none ∨ given = some []) ∧
    (collected values = none ↔ values = []) ∧
    (∀ text, pairsOf option (textsJson (collected values)) = .error (.badPair option text) ↔
      IsFirst Offends values text) ∧
    (values ≠ [] → (∀ text ∈ values, ¬ Offends text) → ∃ members : Members String,
      pairsOf option (textsJson (collected values)) = .ok (some members) ∧ members.IsListed ∧
      (∀ key, key ∈ members.names ↔
        key ≠ Members.reservedName ∧ ∃ text ∈ values, ∃ value, IsPairOf text key value) ∧
      ∀ key value, members.get? key = some value ↔
        key ≠ Members.reservedName ∧ IsLastPair values key value) ∧
    (∀ (path : String) (given : List Given) (s : Session),
      ((∃ code s', (runBuild path (.ofGiven given)).run s = (.ok (.exit code), s')) ↔
        ∃ p ∈ givenPairs given, Offends p.2) ∧
      ∀ name text, IsFirst (Offends ·.2) (givenPairs given) (name, text) →
        (runBuild path (.ofGiven given)).run s = (.ok (.exit 1),
          { s with verbose := (BuildFlags.ofGiven given).verbose }.record
            (.log (badPairLine name text)))) ∧
    ∀ key value, key ≠ "" → '=' ∉ key.toList →
      keyValue? (key ++ "=" ++ value) = some (key, value) := by
  have hpairs := pairsOf_textsJson option (collected values)
  rw [getD_collected] at hpairs
  refine ⟨fun given => pairsOf_eq_none_iff, ?_, ?_, ?_, ?_, ?_⟩
  · rw [collected_eq]
    split <;> simp_all
  · intro text
    rw [hpairs, ← find?_eq_some_iff_isFirst]
    cases values.find? (Offends ·) <;> simp
  · intro hne hnone
    have hfind : values.find? (Offends ·) = none := by
      rw [List.find?_eq_none]
      simpa using hnone
    refine ⟨assigned values, ?_, isListed_assigned values, fun key => mem_names_assigned,
      fun key value => get?_assigned⟩
    rw [hpairs, hfind, mapOfTexts, if_neg hne]
  · intro path given s
    refine ⟨⟨?_, ?_⟩, fun name text hfirst => run_runBuild_of_isFirst path hfirst⟩
    · rintro ⟨code, s', h⟩
      exact exists_offends_of_exit path h
    · rintro ⟨p, hp, hoffends⟩
      obtain ⟨⟨name, text⟩, hfirst⟩ :=
        exists_isFirst (p := fun p : String × String => Offends p.2) hp hoffends
      exact ⟨1, _, run_runBuild_of_isFirst path hfirst⟩
  · intro key value hkey hfree
    exact keyValue?_eq_some_iff.2 ⟨hkey, hfree, rfl⟩

/-- A label on the command line. -/
def givenLabel (text : String) : Given :=
  { option := { long := "label", description := "Image label" }, value := some text }

/-- The value of a key is the text after its first equals sign, and the later value counts; of two
    labels that offend the first one is told. -/
theorem later_pair_kept_first_offender_told :
    (∃ members : Members String,
      pairsOf "build-arg" (textsJson (collected ["A=1", "B=x=y", "A="])) = .ok (some members) ∧
      members.get? "A" = some "" ∧ members.get? "B" = some "x=y") ∧
    (runBuild "." (.ofGiven [givenLabel "A=1", givenLabel "=x", givenLabel "B"])).run {} =
      (.ok (.exit 1), Session.record {} (.log (badPairLine "label" "=x"))) ∧
    keyValue? ("K" ++ "=" ++ "a=b") = some ("K", "a=b") := by
  obtain ⟨-, -, -, hmap, hexit, hread⟩ :=
    pairs_of_repeated_option "build-arg" ["A=1", "B=x=y", "A="]
  obtain ⟨members, hpairs, -, -, hget⟩ := hmap (by decide) (by decide)
  have hfirst : IsFirst (Offends ·.2)
      (givenPairs [givenLabel "A=1", givenLabel "=x", givenLabel "B"]) ("label", "=x") :=
    find?_eq_some_iff_isFirst.1 (by decide)
  refine ⟨⟨members, hpairs, ?_, ?_⟩, (hexit "." _ {}).2 "label" "=x" hfirst,
    hread "K" "a=b" (by decide) (by decide)⟩
  · exact (hget "A" "").2 ⟨by decide, lastValue?_eq_some_iff.1 (by decide)⟩
  · exact (hget "B" "x=y").2 ⟨by decide, lastValue?_eq_some_iff.1 (by decide)⟩

end ImageBuild.CommandLine
