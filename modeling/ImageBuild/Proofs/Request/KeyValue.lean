import ImageBuild.Proofs.Json.RoundTrip
import ImageBuild.Proofs.Text.Split
import ImageBuild.Request.KeyValue
import ImageBuild.Request.Params
import Mathlib.Data.List.Basic

namespace ImageBuild.Request

/-!
# Repeated pairs — the last value of a key is the one that is sent

A text is a pair (`IsPairOf`) or it offends (`Offends`), and never both.  The first text that
offends is the defect of a list of texts; without one they give the members that their pairs assign
(`membersOf_texts`), where a key has the value of the last text with the key (`get?_assigned`).  As
JSON text, the members are read again as an object in which every key has the value of its last pair
(`mapsLast_of_pairs?`).  There is no text where there are no pairs.
-/

/-- A text is a pair of a key, which is not empty and has no equals sign in it, and a value. -/
def IsPairOf (text key value : String) : Prop :=
  key ≠ "" ∧ '=' ∉ key.toList ∧ text = key ++ "=" ++ value

/-- A text without an equals sign, or with one at its front. -/
def Offends (text : String) : Prop := '=' ∉ text.toList ∨ text.toList.head? = some '='

instance (text : String) : Decidable (Offends text) := inferInstanceAs (Decidable (_ ∨ _))

/-- The first of some things that has a property. -/
def IsFirst {α : Type} (p : α → Prop) (xs : List α) (x : α) : Prop :=
  p x ∧ ∃ before after, xs = before ++ x :: after ∧ ∀ y ∈ before, ¬ p y

/-- The last text with the key has the value. -/
def IsLastPair (texts : List String) (key value : String) : Prop :=
  ∃ before text after, texts = before ++ text :: after ∧ IsPairOf text key value ∧
    ∀ other ∈ after, ∀ v, ¬ IsPairOf other key v

/-- The value of the last pair of a key. -/
def lastValue? (pairs : List String) (key : String) : Option String :=
  (pairs.filterMap keyValue?).reverse.lookup key

/-- A text, where there are pairs, of an object that maps the keys of the pairs to their last
    values. -/
structure MapsLast (pairs : List String) (text : Option String) : Prop where
  eq_none_iff : text = none ↔ pairs = []
  parsed : ∀ t, text = some t → ∃ members, Json.parse? t.toList = some (.object members) ∧
    ∀ key, Members.get? members key = (lastValue? pairs key).map .string

/-- No pair has the reserved name for its key. -/
def HasPlainKeys (pairs : List String) : Prop :=
  ∀ pair ∈ pairs, (keyValue? pair).map (·.1) ≠ some Members.reservedName

instance (pairs : List String) : Decidable (HasPlainKeys pairs) :=
  inferInstanceAs (Decidable (∀ pair ∈ pairs, _ ≠ _))

/-- What a repeated option is given as: a list of texts, or nothing for none. -/
def IsListOf (given : Option Json) (texts : List String) : Prop :=
  given = some (.array (texts.map .string)) ∨ given = none ∧ texts = []

/-! ### Pairs -/

/-- A text that does not offend is a pair. -/
theorem exists_isPairOf_of_not_offends {text : String} (h : ¬ Offends text) :
    ∃ key value, IsPairOf text key value := by
  obtain ⟨hmem, hhead⟩ := not_or.1 h
  obtain ⟨key, value, htext, hfree⟩ := List.eq_append_cons_of_mem (not_not.1 hmem)
  have hkey : key ≠ [] := by
    rintro rfl
    exact hhead (by rw [htext]; rfl)
  refine ⟨String.ofList key, String.ofList value, by simpa using hkey, by simpa using hfree, ?_⟩
  rw [← String.toList_inj, htext]
  simp

/-- A pair is read as its key and its value. -/
theorem IsPairOf.keyValue?_eq {text key value : String} (h : IsPairOf text key value) :
    keyValue? text = some (key, value) := by
  obtain ⟨hkey, hfree, rfl⟩ := h
  have htext : (key ++ "=" ++ value).toList = key.toList ++ '=' :: value.toList := by simp
  have hne : key.toList ≠ [] := by simpa using hkey
  obtain ⟨c, rest, hlist⟩ := List.exists_cons_of_ne_nil hne
  rw [keyValue?, htext, Text.span_append_cons hfree, hlist]
  simp [← hlist]

/-- A text that offends is read as no pair. -/
theorem Offends.keyValue?_eq {text : String} (h : Offends text) : keyValue? text = none := by
  rcases h with hmem | hhead
  · rw [keyValue?, Text.span_of_notMem hmem]
    split <;> simp_all
  · obtain ⟨rest, htext⟩ := List.head?_eq_some_iff.1 hhead
    have hspan : ('=' :: rest).span (· ≠ '=') = ([], '=' :: rest) :=
      Text.span_append_cons List.not_mem_nil rest
    rw [keyValue?, htext, hspan]

/-- A pair is what is read from a text. -/
theorem keyValue?_eq_some_iff {text key value : String} :
    keyValue? text = some (key, value) ↔ IsPairOf text key value := by
  constructor
  · intro h
    by_cases hoffends : Offends text
    · rw [hoffends.keyValue?_eq] at h
      cases h
    · obtain ⟨k, v, hpair⟩ := exists_isPairOf_of_not_offends hoffends
      rw [hpair.keyValue?_eq] at h
      cases h
      exact hpair
  · exact IsPairOf.keyValue?_eq

/-! ### Texts -/

/-- A search finds the first hit. -/
theorem find?_eq_some_iff_isFirst {α : Type} {p : α → Prop} [DecidablePred p] {xs : List α}
    {x : α} : xs.find? (p ·) = some x ↔ IsFirst p xs x := by
  rw [List.find?_eq_some_iff_append, IsFirst]
  simp

/-- Where something has a property, something is the first that has it. -/
theorem exists_isFirst {α : Type} {p : α → Prop} [DecidablePred p] {xs : List α} {x : α}
    (hx : x ∈ xs) (hp : p x) : ∃ y, IsFirst p xs y := by
  have hsome : (xs.find? (p ·)).isSome = true := List.find?_isSome.2 ⟨x, hx, by simpa using hp⟩
  obtain ⟨y, hy⟩ := Option.isSome_iff_exists.1 hsome
  exact ⟨y, find?_eq_some_iff_isFirst.1 hy⟩

/-- The last text with a key is the one that was added, if it has the key, and else the one
    before. -/
theorem isLastPair_concat {texts : List String} {text key value : String} :
    IsLastPair (texts ++ [text]) key value ↔ IsPairOf text key value ∨
      (∀ v, ¬ IsPairOf text key v) ∧ IsLastPair texts key value := by
  constructor
  · rintro ⟨before, hit, after, heq, hpair, hafter⟩
    -- without texts behind it, the hit is the one that was added
    cases after using List.reverseRecOn with
    | nil =>
      obtain ⟨-, rfl⟩ := List.append_singleton_inj.1 heq
      exact .inl hpair
    | append_singleton after other =>
      rw [← List.cons_append, ← List.append_assoc] at heq
      obtain ⟨rfl, rfl⟩ := List.append_singleton_inj.1 heq
      exact .inr ⟨hafter text (by simp), before, hit, after, rfl, hpair,
        fun other hother => hafter other (by simp [hother])⟩
  · rintro (hpair | ⟨hnot, before, hit, after, rfl, hpair, hafter⟩)
    · exact ⟨texts, text, [], rfl, hpair, by simp⟩
    · refine ⟨before, hit, after ++ [text], by simp, hpair, fun other hother => ?_⟩
      rcases List.mem_append.1 hother with hother | hother
      · exact hafter other hother
      · rw [List.mem_singleton.1 hother]
        exact hnot

/-- Some text with a key is the last one with it. -/
theorem exists_isLastPair {texts : List String} {key : String} :
    (∃ value, IsLastPair texts key value) ↔ ∃ text ∈ texts, ∃ value, IsPairOf text key value := by
  constructor
  · rintro ⟨value, before, text, after, rfl, hpair, -⟩
    exact ⟨text, by simp, value, hpair⟩
  · rintro ⟨text, htext, value, hpair⟩
    -- induction from the end, where the first text with the key is the last one
    induction texts using List.reverseRecOn with
    | nil => cases htext
    | append_singleton texts last ih =>
      by_cases hlast : ∃ v, IsPairOf last key v
      · obtain ⟨v, hv⟩ := hlast
        exact ⟨v, isLastPair_concat.2 (.inl hv)⟩
      · have hmem : text ∈ texts := by
          rcases List.mem_append.1 htext with hmem | hmem
          · exact hmem
          · exact absurd ⟨value, List.mem_singleton.1 hmem ▸ hpair⟩ hlast
        obtain ⟨v, hv⟩ := ih hmem
        exact ⟨v, isLastPair_concat.2 (.inr ⟨not_exists.1 hlast, hv⟩)⟩

/-- The last value of a key is the value of the last text with the key. -/
theorem lastValue?_eq_some_iff {texts : List String} {key value : String} :
    lastValue? texts key = some value ↔ IsLastPair texts key value := by
  -- induction from the end, as `isLastPair_concat` takes the texts apart
  induction texts using List.reverseRecOn with
  | nil =>
    constructor
    · intro h
      cases h
    · rintro ⟨before, text, after, heq, -⟩
      simp at heq
  | append_singleton texts text ih =>
    rw [isLastPair_concat, ← ih, lastValue?, List.filterMap_append, List.reverse_append]
    simp only [← keyValue?_eq_some_iff]
    cases hread : keyValue? text with
    | none => simp [hread, lastValue?]
    | some pair =>
      obtain ⟨k, v⟩ := pair
      by_cases hkey : key = k
      · subst hkey
        simp [hread]
      · have hother : (key == k) = false := beq_eq_false_iff_ne.2 hkey
        simp [hread, List.lookup_cons, hother, Ne.symm hkey, lastValue?]

/-- What texts assign, one after the other. -/
def assigned (texts : List String) : Members String :=
  (texts.filterMap keyValue?).foldl (fun ms p => ms.assign p.1 p.2) []

/-- **Texts.** The first text that offends is a defect, and without one the texts give what they
    assign. -/
theorem membersOf_texts (texts : List String) :
    membersOf (texts.map .string) = match texts.find? (Offends ·) with
      | some text => .error (.notPair text)
      | none => .ok (assigned texts) := by
  rw [membersOf, assigned]
  -- induction on the texts, for whatever members there are before them
  generalize ([] : Members String) = before
  induction texts generalizing before with
  | nil => rfl
  | cons text texts ih =>
    rw [List.map_cons, List.foldlM_cons, pairOf, List.find?_cons]
    by_cases hoffends : Offends text
    · rw [hoffends.keyValue?_eq, decide_eq_true hoffends]
      rfl
    · obtain ⟨key, value, hpair⟩ := exists_isPairOf_of_not_offends hoffends
      rw [List.filterMap_cons_some hpair.keyValue?_eq, hpair.keyValue?_eq,
        decide_eq_false hoffends]
      exact ih _

/-- What texts assign is the listing of their pairs, less those with the reserved name. -/
theorem assigned_eq_ofPairs (texts : List String) : assigned texts =
    Members.ofPairs (Members.erase (texts.filterMap keyValue?) Members.reservedName) := by
  rw [assigned, Members.ofPairs, Members.erase, List.foldl_filter]
  refine List.foldl_ext _ _ _ fun ms p _ => ?_
  rw [Members.assign]
  by_cases hkey : p.1 = Members.reservedName <;> simp [hkey]

/-- **Members.** A key has the value of the last text with the key, except for the reserved name. -/
theorem get?_assigned {texts : List String} {key value : String} :
    (assigned texts).get? key = some value ↔
      key ≠ Members.reservedName ∧ IsLastPair texts key value := by
  have hget : (assigned texts).get? key =
      (Members.erase (texts.filterMap keyValue?).reverse Members.reservedName).get? key := by
    rw [assigned_eq_ofPairs, Members.get?_ofPairs, Members.erase, ← List.filter_reverse]
    rfl
  rw [hget, Members.get?_erase, ← lastValue?_eq_some_iff, lastValue?, ← Members.get?]
  by_cases hkey : key = Members.reservedName <;> simp [hkey]

/-- The names of members are the keys of the texts, less the reserved name. -/
theorem mem_names_assigned {texts : List String} {key : String} :
    key ∈ (assigned texts).names ↔
      key ≠ Members.reservedName ∧ ∃ text ∈ texts, ∃ value, IsPairOf text key value := by
  rw [← Members.has_iff_mem_names, Members.has, Option.isSome_iff_exists, ← exists_isLastPair,
    ← exists_and_left]
  simp only [get?_assigned]

/-- What texts assign is in order. -/
theorem isListed_assigned (texts : List String) : (assigned texts).IsListed := by
  rw [assigned_eq_ofPairs]
  exact Members.isListed_ofPairs _

/-! ### Members of pairs -/

/-- No member that texts assign has the reserved name. -/
theorem ne_reservedName_of_mem_assigned {texts : List String} {m : String × String}
    (hm : m ∈ assigned texts) : m.1 ≠ Members.reservedName :=
  (mem_names_assigned.1 (List.mem_map_of_mem hm)).1

/-- What texts assign is read again from its text. -/
theorem parse?_assigned (texts : List String) :
    Json.parse? (Json.print (.object ((assigned texts).map fun m => (m.1, .string m.2)))) =
      some (.object ((assigned texts).map fun m => (m.1, .string m.2))) := by
  refine Json.parse?_print
    (.object ((Members.isListed_map Json.string).2 (isListed_assigned texts)) ?_)
  intro m hm
  obtain ⟨n, -, rfl⟩ := List.mem_map.1 hm
  exact .string n.2

section PlainKeys

variable {texts : List String} (hkeys : HasPlainKeys texts)

include hkeys

/-- Without the reserved name, every key has the value of its last pair. -/
theorem HasPlainKeys.get?_assigned (key : String) :
    (assigned texts).get? key = lastValue? texts key := by
  have hplain : ∀ p ∈ texts.filterMap keyValue?, p.1 ≠ Members.reservedName := by
    intro p hp heq
    obtain ⟨text, htext, hvalue⟩ := List.mem_filterMap.1 hp
    exact hkeys text htext (by rw [hvalue, Option.map_some, heq])
  rw [assigned_eq_ofPairs, Members.erase_of_forall_ne hplain, Members.get?_ofPairs, lastValue?]

/-- Without the reserved name, texts that do not offend assign something. -/
theorem HasPlainKeys.assigned_ne_nil (hpairs : ∀ text ∈ texts, ¬ Offends text)
    (hne : texts ≠ []) : assigned texts ≠ [] := by
  obtain ⟨text, htext⟩ := List.exists_mem_of_ne_nil _ hne
  obtain ⟨key, value, hpair⟩ := exists_isPairOf_of_not_offends (hpairs text htext)
  have hkey : key ≠ Members.reservedName := by
    rintro rfl
    exact hkeys text htext (by rw [hpair.keyValue?_eq]; rfl)
  have hmem : key ∈ (assigned texts).names :=
    mem_names_assigned.2 ⟨hkey, text, htext, value, hpair⟩
  intro hnil
  rw [hnil] at hmem
  cases hmem

end PlainKeys

/-! ### The text of a repeated option -/

/-- The map that texts give; none where there are no texts. -/
def mapOfTexts (texts : List String) : Option (Members String) :=
  if texts = [] then none else some (assigned texts)

/-- A repeated option gives the map of its texts, or the first of them that offends is its
    defect. -/
theorem pairs?_of_isListOf {given : Option Json} {texts : List String}
    (hgiven : IsListOf given texts) :
    pairs? given = match texts.find? (Offends ·) with
      | some text => .error (.notPair text)
      | none => .ok (mapOfTexts texts) := by
  rcases hgiven with rfl | ⟨rfl, rfl⟩
  · cases texts with
    | nil => rfl
    | cons text rest =>
      have hread : pairs? (some (.array ((text :: rest).map .string))) =
          some <$> membersOf ((text :: rest).map .string) := rfl
      rw [hread, membersOf_texts]
      cases (text :: rest).find? (Offends ·) <;> rfl
  · rfl

section Text

variable {given : Option Json} {texts : List String} (hgiven : IsListOf given texts)
  {map : Option (Members String)} (h : pairs? given = .ok map)

include hgiven h

/-- Where a repeated option gives a map or none, no text offends. -/
theorem not_offends_of_pairs? : map = mapOfTexts texts ∧ ∀ text ∈ texts, ¬ Offends text := by
  rw [pairs?_of_isListOf hgiven] at h
  split at h
  · cases h
  · rename_i hfind
    cases h
    exact ⟨rfl, by simpa using hfind⟩

/-- No member that a repeated option gives has the reserved name. -/
theorem ne_reservedName_of_pairs? {members : Members String} (hmap : map = some members)
    {m : String × String} (hm : m ∈ members) : m.1 ≠ Members.reservedName := by
  rw [(not_offends_of_pairs? hgiven h).1, mapOfTexts] at hmap
  split at hmap
  · cases hmap
  · cases hmap
    exact ne_reservedName_of_mem_assigned hm

/-- The text of what a repeated option gives maps every key to its last value. -/
theorem mapsLast_of_pairs? (hkeys : HasPlainKeys texts) : MapsLast texts (mapText? map) := by
  obtain ⟨rfl, hpairs⟩ := not_offends_of_pairs? hgiven h
  by_cases hne : texts = []
  · subst hne
    exact ⟨by simp [mapText?, mapOfTexts], by simp [mapText?, mapOfTexts]⟩
  · obtain ⟨m, ms, hmembers⟩ := List.exists_cons_of_ne_nil (hkeys.assigned_ne_nil hpairs hne)
    have htext : mapText? (mapOfTexts texts) =
        some (Json.text (.object ((assigned texts).map fun m => (m.1, .string m.2)))) := by
      rw [mapOfTexts, if_neg hne, hmembers]
      rfl
    refine ⟨by simp [htext, hne],
      fun t ht => ⟨(assigned texts).map fun m => (m.1, .string m.2), ?_, ?_⟩⟩
    · rw [htext, Option.some.injEq] at ht
      rw [← ht, Json.text, String.toList_ofList, parse?_assigned]
    · intro key
      rw [Members.get?_map, hkeys.get?_assigned]

end Text

end ImageBuild.Request
