import ImageBuild.Proofs.Members
import ImageBuild.Proofs.Number
import ImageBuild.Proofs.Request.Params

namespace ImageBuild.Request

/-!
# Domains — the values that build options may have

Each known option has a domain, stated without the checks (`domains`).  A check passes exactly on
the domain of its option (`forall₂_forms_domains`), where two of the checks are put together from
the check of a part (`Admits.members`, `Admits.items`).  Hence options have an issue exactly when one
of them is given with a value outside its domain, and the issue starts at the first one that is
(`issue?_cases`).
-/

/-- A string. -/
def IsString (value : Json) : Prop := ∃ s, value = .string s

/-- A string that is not empty. -/
def IsFilledString (value : Json) : Prop := ∃ s, s ≠ "" ∧ value = .string s

/-- A truth value. -/
def IsFlag (value : Json) : Prop := ∃ b, value = .bool b

/-- An integer above zero. -/
def IsPositiveInteger (value : Json) : Prop := ∃ n : Nat, 0 < n ∧ value = .number (.finite n)

/-- An integer not below zero, or a string that is not empty. -/
def IsLimit (value : Json) : Prop :=
  (∃ n : Nat, value = .number (.finite n)) ∨ IsFilledString value

/-- An object whose members are all in one domain. -/
def IsMapOf (domain : Json → Prop) (value : Json) : Prop :=
  ∃ members : Members Json, value = .object members ∧ ∀ m ∈ members, domain m.2

/-- An array whose items are all in one domain. -/
def IsArrayOf (domain : Json → Prop) (value : Json) : Prop :=
  ∃ items, value = .array items ∧ ∀ item ∈ items, domain item

/-- An object of limits under known names. -/
def IsLimits (value : Json) : Prop :=
  ∃ members : Members Json, value = .object members ∧ ∀ m ∈ members, m.1 ∈ limitNames ∧ IsLimit m.2

/-- The known options and their domains, in the order in which they are checked. -/
def domains : List (String × (Json → Prop)) :=
  [("tag", IsString), ("quiet", IsFlag), ("noCache", IsFlag), ("rm", IsFlag), ("forceRm", IsFlag),
   ("pull", IsFlag), ("buildArgs", IsMapOf IsString), ("labels", IsMapOf IsString),
   ("target", IsFilledString), ("platform", IsFilledString), ("networkMode", IsFilledString),
   ("shmSize", IsPositiveInteger), ("cacheFrom", IsArrayOf IsFilledString),
   ("containerLimits", IsLimits)]

/-- A value has no member under the reserved name. -/
def IsPlain (value : Json) : Prop :=
  ∀ members : Members Json, value = .object members → Members.reservedName ∉ members.names

/-- No map among the options has a member under the reserved name. -/
def HasPlainMaps (given : Members Json) : Prop :=
  ∀ option ∈ ["buildArgs", "labels", "containerLimits"], ∀ value, given.get? option = some value →
    IsPlain value

/-- An option is given with a value outside its domain. -/
def IsMisfit (given : Members Json) (option : String × (Json → Prop)) : Prop :=
  ∃ value, given.get? option.1 = some value ∧ ¬ option.2 value

/-- An option is the first one that is given with a value outside its domain. -/
def IsFirstMisfit (given : Members Json) (name : String) : Prop :=
  ∃ before option after, domains = before ++ option :: after ∧ option.1 = name ∧
    IsMisfit given option ∧ ∀ earlier ∈ before, ¬ IsMisfit given earlier

/-- A check passes exactly on a domain. -/
def Admits (form : Form) (domain : Json → Prop) : Prop := ∀ value, form value = none ↔ domain value

/-! ### One value -/

/-- A problem of the value itself is an issue. -/
theorem here_ne_none (problem : Problem) : Form.here problem ≠ none := Option.some_ne_none _

/-- A part has an issue when it has one by itself. -/
theorem within_eq_none_iff {name : String} {issue : Option Issue} :
    Form.within name issue = none ↔ issue = none := Option.map_eq_none_iff

/-- The check of strings passes on strings. -/
theorem admits_string : Admits .string IsString := by
  intro value
  cases value <;> simp [Form.string, IsString, here_ne_none]

/-- The check of truth values passes on truth values. -/
theorem admits_flag : Admits .flag IsFlag := by
  intro value
  cases value <;> simp [Form.flag, IsFlag, here_ne_none]

/-- The check of filled strings passes on strings that are not empty. -/
theorem admits_filledString : Admits .filledString IsFilledString := by
  intro value
  cases value with
  | string s => by_cases hs : s = "" <;> simp [Form.filledString, IsFilledString, here_ne_none, hs]
  | _ => simp [Form.filledString, IsFilledString, here_ne_none]

/-- The check of positive integers passes on integers above zero. -/
theorem admits_positiveInteger : Admits .positiveInteger IsPositiveInteger := by
  intro value
  cases value with
  | number n =>
    -- an integer above zero is not below it, and so a natural number
    have hnat : IsPositiveInteger (.number n) ↔ n.isInteger = true ∧ Number.lt 0 n = true := by
      constructor
      · rintro ⟨k, hk, hn⟩
        cases hn
        exact ⟨(exists_nat_iff.1 ⟨k, rfl⟩).1, (lt_finite_natCast k).2 hk⟩
      · rintro ⟨hinteger, habove⟩
        obtain ⟨k, rfl⟩ := exists_nat_iff.2 ⟨hinteger, isNegative_of_lt habove⟩
        exact ⟨k, (lt_finite_natCast k).1 habove, rfl⟩
    rw [hnat, Form.positiveInteger]
    cases n.isInteger <;> cases Number.lt 0 n <;> simp [here_ne_none]
  | _ => simp [Form.positiveInteger, IsPositiveInteger, here_ne_none]

/-- The check of limits passes on integers not below zero and on strings that are not empty. -/
theorem admits_limit : Admits .limit IsLimit := by
  intro value
  cases value with
  | number n =>
    have hnat : IsLimit (.number n) ↔ n.isInteger = true ∧ n.isNegative = false := by
      simp [IsLimit, IsFilledString, ← exists_nat_iff]
    rw [hnat, Form.limit]
    cases n.isInteger <;> cases n.isNegative <;> simp [here_ne_none]
  | string s =>
    by_cases hs : s = "" <;> simp [Form.limit, IsLimit, IsFilledString, here_ne_none, hs]
  | _ => simp [Form.limit, IsLimit, IsFilledString, here_ne_none]

/-! ### Maps and arrays -/

/-- The check of a map passes when the check of every member does. -/
theorem Admits.members {form : Form} {domain : Json → Prop} (h : Admits form domain) :
    Admits (.members form) (IsMapOf domain) := by
  intro value
  cases value with
  | object members =>
    rw [Form.members, List.findSome?_eq_none_iff]
    simp [IsMapOf, within_eq_none_iff, h _]
  | _ => simp [Form.members, IsMapOf, here_ne_none]

/-- The check of an array passes when the check of every item does. -/
theorem Admits.items {form : Form} {domain : Json → Prop} (h : Admits form domain) :
    Admits (.items form) (IsArrayOf domain) := by
  intro value
  cases value with
  | array items =>
    rw [Form.items, List.findSome?_eq_none_iff]
    constructor
    · intro hitems
      refine ⟨items, rfl, fun item hitem => ?_⟩
      obtain ⟨i, hi, rfl⟩ := List.getElem_of_mem hitem
      exact (h _).1 (within_eq_none_iff.1 (hitems _ (List.mem_mapIdx.2 ⟨i, hi, rfl⟩)))
    · rintro ⟨others, heq, hitems⟩ m hm
      cases heq
      obtain ⟨i, hi, rfl⟩ := List.mem_mapIdx.1 hm
      exact within_eq_none_iff.2 ((h _).2 (hitems _ (List.getElem_mem hi)))
  | _ => simp [Form.items, IsArrayOf, here_ne_none]

/-- Erasing the reserved name changes nothing where no name is reserved. -/
theorem erase_of_plain {members : Members Json} (h : IsPlain (.object members)) :
    Members.erase members Members.reservedName = members := by
  refine Members.erase_of_forall_ne fun m hm hname => ?_
  exact h members rfl (hname ▸ List.mem_map_of_mem hm)

/-- The check of limits passes on limits, as far as no name is reserved. -/
theorem limits_eq_none_iff {value : Json} (hplain : IsPlain value) :
    Form.limits value = none ↔ IsLimits value := by
  rw [Form.limits, Option.or_eq_none_iff, admits_limit.members value]
  constructor
  · rintro ⟨⟨members, rfl, hlimits⟩, hnames⟩
    refine ⟨members, rfl, fun m hm => ⟨?_, hlimits m hm⟩⟩
    rw [List.findSome?_eq_none_iff] at hnames
    have hkept : m.1 ∈ (Members.erase members Members.reservedName).names := by
      rw [erase_of_plain hplain]
      exact List.mem_map_of_mem hm
    simpa [within_eq_none_iff, here_ne_none] using hnames _ hkept
  · rintro ⟨members, rfl, hmembers⟩
    refine ⟨⟨members, rfl, fun m hm => (hmembers m hm).2⟩, ?_⟩
    rw [List.findSome?_eq_none_iff]
    intro name hname
    have hkept : ((Json.object members).members?.getD []).erase Members.reservedName = members :=
      erase_of_plain hplain
    rw [hkept] at hname
    obtain ⟨m, hm, rfl⟩ := List.mem_map.1 hname
    rw [if_pos (List.contains_iff_mem.2 (hmembers m hm).1)]

/-! ### All options -/

/-- A check belongs to an option: it has the name of the option, and passes on what is given for it
    exactly when this is in the domain. -/
def Checks (given : Members Json) (checked : String × Form) (option : String × (Json → Prop)) :
    Prop :=
  checked.1 = option.1 ∧
    ∀ value, given.get? option.1 = some value → (checked.2 value = none ↔ option.2 value)

/-- A check that admits a domain belongs to an option with this domain. -/
theorem Admits.checks {form : Form} {domain : Json → Prop} (h : Admits form domain)
    (given : Members Json) (name : String) : Checks given (name, form) (name, domain) :=
  ⟨rfl, fun value _ => h value⟩

/-- The checks of the known options belong to them, in their order. -/
theorem forall₂_forms_domains {given : Members Json} (hplain : HasPlainMaps given) :
    List.Forall₂ (Checks given) Options.forms domains := by
  have hlimits : Checks given ("containerLimits", .limits) ("containerLimits", IsLimits) :=
    ⟨rfl, fun value hvalue => limits_eq_none_iff (hplain _ (by simp) value hvalue)⟩
  rw [Options.forms, domains]
  simp only [List.forall₂_cons, List.Forall₂.nil, hlimits, admits_string.checks,
    admits_flag.checks, admits_filledString.checks, admits_positiveInteger.checks,
    admits_string.members.checks, admits_filledString.items.checks, and_self]

/-- The issue that a check finds in what is given for its option. -/
def issueOf? (given : Members Json) (checked : String × Form) : Option Issue :=
  (given.get? checked.1).bind fun value => Form.within checked.1 (checked.2 value)

/-- A check finds an issue in what is given for its option exactly when this is outside the domain,
    and the issue starts at the option. -/
theorem Checks.cases {given : Members Json} {checked : String × Form}
    {option : String × (Json → Prop)} (h : Checks given checked option) :
    (issueOf? given checked = none ∧ ¬ IsMisfit given option) ∨
      ∃ issue, issueOf? given checked = some issue ∧ issue.path.head? = some option.1 ∧
        IsMisfit given option := by
  obtain ⟨hname, hdomain⟩ := h
  rw [issueOf?, hname]
  cases hvalue : given.get? option.1 with
  | none => exact .inl ⟨rfl, fun ⟨value, hgiven, _⟩ => by rw [hvalue] at hgiven; cases hgiven⟩
  | some value =>
    have hiff := hdomain value hvalue
    rw [Option.bind_some]
    cases hissue : checked.2 value with
    | none =>
      refine .inl ⟨rfl, ?_⟩
      rintro ⟨other, hother, hnot⟩
      rw [hvalue, Option.some.injEq] at hother
      exact hnot (hother ▸ hiff.1 hissue)
    | some issue =>
      refine .inr ⟨{ issue with path := option.1 :: issue.path }, rfl, rfl, value, hvalue, ?_⟩
      rw [← hiff, hissue]
      simp

/-- Options are checked one after the other: either each of them is in its domain, or the issue is
    that of the first one that is not. -/
theorem findSome?_cases {given : Members Json} {checks : List (String × Form)}
    {options : List (String × (Json → Prop))} (h : List.Forall₂ (Checks given) checks options) :
    (checks.findSome? (issueOf? given) = none ∧ ∀ option ∈ options, ¬ IsMisfit given option) ∨
      ∃ issue, checks.findSome? (issueOf? given) = some issue ∧
        ∃ before option after, options = before ++ option :: after ∧
          issue.path.head? = some option.1 ∧ IsMisfit given option ∧
            ∀ earlier ∈ before, ¬ IsMisfit given earlier := by
  induction h with
  | nil => exact .inl ⟨rfl, by simp⟩
  | @cons checked option checks options hcheck hrest ih =>
    rw [List.findSome?_cons]
    rcases hcheck.cases with ⟨hnone, hfits⟩ | ⟨issue, hissue, hhead, hmisfit⟩
    · -- the first option fits, so that the outcome is that of the others
      simp only [hnone]
      rcases ih with ⟨hnone, hfit⟩ | ⟨issue, hissue, before, first, after, rfl, hfirst⟩
      · exact .inl ⟨hnone, List.forall_mem_cons.2 ⟨hfits, hfit⟩⟩
      · obtain ⟨hhead, hmisfit, hbefore⟩ := hfirst
        exact .inr ⟨issue, hissue, option :: before, first, after, rfl, hhead, hmisfit,
          List.forall_mem_cons.2 ⟨hfits, hbefore⟩⟩
    · simp only [hissue]
      exact .inr ⟨issue, rfl, [], option, options, rfl, hhead, hmisfit, by simp⟩

/-- Options have no issue when all of them are in their domains, and otherwise one that starts at
    the first option outside. -/
theorem issue?_cases {given : Members Json} (hplain : HasPlainMaps given) :
    (Options.issue? (.object given) = none ∧ ∀ option ∈ domains, ¬ IsMisfit given option) ∨
      ∃ issue name, Options.issue? (.object given) = some issue ∧ issue.path.head? = some name ∧
        IsFirstMisfit given name := by
  have hissue : Options.issue? (.object given) = Options.forms.findSome? (issueOf? given) := rfl
  rw [hissue]
  rcases findSome?_cases (forall₂_forms_domains hplain) with
    hnone | ⟨issue, hissue, before, option, after, hall, hhead, hmisfit⟩
  · exact .inl hnone
  · exact .inr ⟨issue, option.1, hissue, hhead, before, option, after, hall, rfl, hmisfit⟩

end ImageBuild.Request
