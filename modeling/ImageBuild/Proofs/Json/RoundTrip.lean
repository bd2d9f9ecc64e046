import ImageBuild.Proofs.Json.Strings
import ImageBuild.Proofs.Members

namespace ImageBuild.Json

/-!
# Printing and reading — a printed value is read as the same value

This holds of every value without numbers whose objects list their members in order.  The reader
needs as much fuel as there are characters (`value?_print`), and `parse?` gives it one more.  Whatever
is read, an object that is found lists its members in order (`isListed_of_parse?`).
-/

/-- A value without numbers, whose objects list their members in order. -/
inductive IsTextual : Json → Prop
  | null : IsTextual .null
  | bool (b : Bool) : IsTextual (.bool b)
  | string (s : String) : IsTextual (.string s)
  | array {items : List Json} (hitems : ∀ v ∈ items, IsTextual v) : IsTextual (.array items)
  | object {members : Members Json} (hlisted : members.IsListed)
      (hmembers : ∀ m ∈ members, IsTextual m.2) : IsTextual (.object members)

/-- Items are separated by commas. -/
theorem printItems_cons_cons (v w : Json) (vs : List Json) :
    printItems (v :: w :: vs) = print v ++ ',' :: printItems (w :: vs) := by
  rw [printItems]
  simp

/-- Members are separated by commas, and a colon follows each name. -/
theorem printMembers_cons_cons (name : String) (v : Json) (m : String × Json)
    (ms : List (String × Json)) :
    printMembers ((name, v) :: m :: ms) =
      quote name.toList ++ ':' :: print v ++ ',' :: printMembers (m :: ms) := by
  rw [printMembers]
  simp

/-! ### Fronts of printed values -/

/-- A text that does not begin with a blank has none to skip. -/
theorem skipSpace_cons {c : Char} (hc : isSpace c = false) (s : List Char) :
    skipSpace (c :: s) = c :: s := by
  simp [skipSpace, hc]

/-- A printed value begins with a character that is no blank and closes nothing. -/
theorem exists_print_eq_cons {v : Json} (hv : IsTextual v) :
    ∃ c s, print v = c :: s ∧ isSpace c = false ∧ c ≠ ']' ∧ c ≠ '}' := by
  cases hv with
  | null => exact ⟨'n', _, rfl, by decide⟩
  | bool b => cases b <;> exact ⟨_, _, rfl, by decide⟩
  | string s => exact ⟨'"', _, rfl, by decide⟩
  | array _ => exact ⟨'[', _, rfl, by decide⟩
  | object _ _ => exact ⟨'{', _, rfl, by decide⟩

/-- What is read of a value is what follows its printed form. -/
def Reads (v : Json) : Prop :=
  ∀ fuel rest, (print v).length ≤ fuel → value? fuel (print v ++ rest) = some (v, rest)

/-! ### Items -/

/-- Printed items, and the bracket that closes them, are read as these items. -/
theorem items?_printItems {items : List Json} (hne : items ≠ [])
    (hitems : ∀ v ∈ items, Reads v) {fuel : Nat}
    (hfuel : (printItems items).length + 1 ≤ fuel) (rest : List Char) :
    items? fuel (printItems items ++ ']' :: rest) = some (items, rest) := by
  induction items generalizing fuel with
  | nil => exact absurd rfl hne
  | cons v vs ih =>
    -- every item takes one unit of fuel, and the comma or bracket after it pays for that
    obtain ⟨fuel, rfl⟩ : ∃ n, fuel = n + 1 := ⟨fuel - 1, by omega⟩
    cases vs with
    | nil =>
      rw [printItems] at hfuel ⊢
      rw [items?, hitems v (by simp) fuel _ (by omega)]
      rfl
    | cons w vs =>
      rw [printItems_cons_cons, List.length_append, List.length_cons] at hfuel
      rw [printItems_cons_cons, List.append_assoc, items?, hitems v (by simp) fuel _ (by omega)]
      have hrest : items? fuel (printItems (w :: vs) ++ ']' :: rest) = some (w :: vs, rest) :=
        ih (by simp) (fun u hu => hitems u (by simp [hu])) (by omega)
      simp [skipSpace, isSpace, hrest]

/-! ### Members -/

section Members

variable {fuel : Nat} {name : String} {v : Json} {tail rest : List Char}

/-- The first character of a printed name opens it. -/
theorem quote_append_colon (name : String) (tail : List Char) :
    quote name.toList ++ ':' :: tail = '"' :: (escapeAll name.toList ++ '"' :: ':' :: tail) := by
  simp [quote]

/-- A member before the closing brace is read as the last one. -/
theorem pairs?_last (hv : value? fuel tail = some (v, '}' :: rest)) :
    pairs? (fuel + 1) (quote name.toList ++ ':' :: tail) = some ([(name, v)], rest) := by
  have hcolon : skipSpace (':' :: tail) = ':' :: tail := skipSpace_cons (by decide) tail
  have hbrace : skipSpace ('}' :: rest) = '}' :: rest := skipSpace_cons (by decide) rest
  rw [quote_append_colon, pairs?, skipSpace_cons (by decide)]
  simp [readString?_quote, hcolon, hv, hbrace]

/-- A member before a comma is read together with those after it. -/
theorem pairs?_more {ms : List (String × Json)} {after : List Char}
    (hv : value? fuel tail = some (v, ',' :: rest)) (hms : pairs? fuel rest = some (ms, after)) :
    pairs? (fuel + 1) (quote name.toList ++ ':' :: tail) = some ((name, v) :: ms, after) := by
  have hcolon : skipSpace (':' :: tail) = ':' :: tail := skipSpace_cons (by decide) tail
  have hcomma : skipSpace (',' :: rest) = ',' :: rest := skipSpace_cons (by decide) rest
  rw [quote_append_colon, pairs?, skipSpace_cons (by decide)]
  simp [readString?_quote, hcolon, hv, hcomma, hms]

end Members

/-- Printed members, and the brace that closes them, are read as these members. -/
theorem pairs?_printMembers {members : List (String × Json)} (hne : members ≠ [])
    (hmembers : ∀ m ∈ members, Reads m.2) {fuel : Nat}
    (hfuel : (printMembers members).length + 1 ≤ fuel) (rest : List Char) :
    pairs? fuel (printMembers members ++ '}' :: rest) = some (members, rest) := by
  induction members generalizing fuel with
  | nil => exact absurd rfl hne
  | cons m ms ih =>
    obtain ⟨name, v⟩ := m
    have hv : Reads v := hmembers (name, v) (by simp)
    obtain ⟨fuel, rfl⟩ : ∃ n, fuel = n + 1 := ⟨fuel - 1, by omega⟩
    cases ms with
    | nil =>
      rw [printMembers, List.length_append, List.length_cons] at hfuel
      rw [printMembers, List.append_assoc, List.cons_append]
      exact pairs?_last (hv fuel _ (by omega))
    | cons n ms =>
      rw [printMembers_cons_cons, List.length_append, List.length_cons, List.length_append,
        List.length_cons] at hfuel
      have hrest : pairs? fuel (printMembers (n :: ms) ++ '}' :: rest) = some (n :: ms, rest) :=
        ih (by simp) (fun k hk => hmembers k (by simp [hk])) (by omega)
      rw [printMembers_cons_cons, List.append_assoc, List.cons_append, List.append_assoc,
        List.cons_append]
      exact pairs?_more (hv fuel _ (by omega)) hrest

/-! ### Values -/

/-- A bracket that opens items does not also close them. -/
theorem exists_printItems_eq_cons {items : List Json} (hne : items ≠ [])
    (hitems : ∀ v ∈ items, IsTextual v) :
    ∃ c s, printItems items = c :: s ∧ isSpace c = false ∧ c ≠ ']' := by
  cases items with
  | nil => exact absurd rfl hne
  | cons v vs =>
    obtain ⟨c, s, hprint, hspace, hclose, -⟩ := exists_print_eq_cons (hitems v (by simp))
    cases vs with
    | nil => exact ⟨c, s, hprint, hspace, hclose⟩
    | cons w vs => exact ⟨c, _, by rw [printItems_cons_cons, hprint]; rfl, hspace, hclose⟩

/-- A brace that opens members does not also close them. -/
theorem exists_printMembers_eq_cons {members : List (String × Json)} (hne : members ≠ []) :
    ∃ s, printMembers members = '"' :: s := by
  cases members with
  | nil => exact absurd rfl hne
  | cons m ms => cases ms <;> exact ⟨_, rfl⟩

/-- A printed value is read as this value, whatever follows it. -/
theorem value?_print {v : Json} (hv : IsTextual v) : Reads v := by
  -- induction on how the value is made, which goes down into items and members like the reader
  induction hv with
  | null =>
    intro fuel rest hfuel
    obtain ⟨fuel, rfl⟩ : ∃ n, fuel = n + 1 := ⟨fuel - 1, by simp [print] at hfuel; omega⟩
    simp [print, value?, skipSpace, isSpace, Text.dropWord?]
  | bool b =>
    intro fuel rest hfuel
    obtain ⟨fuel, rfl⟩ : ∃ n, fuel = n + 1 :=
      ⟨fuel - 1, by cases b <;> simp [print] at hfuel <;> omega⟩
    cases b <;> simp [print, value?, skipSpace, isSpace, Text.dropWord?]
  | string s =>
    intro fuel rest hfuel
    obtain ⟨fuel, rfl⟩ : ∃ n, fuel = n + 1 := ⟨fuel - 1, by simp [print, quote] at hfuel; omega⟩
    have hquote : print (.string s) ++ rest = '"' :: (escapeAll s.toList ++ '"' :: rest) := by
      simp [print, quote]
    rw [hquote, value?, skipSpace_cons (by decide)]
    simp [readString?_quote]
  | @array items hitems ih =>
    intro fuel rest hfuel
    rw [print, List.length_append, List.length_cons, List.length_singleton] at hfuel
    obtain ⟨fuel, rfl⟩ : ∃ n, fuel = n + 1 := ⟨fuel - 1, by omega⟩
    rw [print, List.append_assoc, List.cons_append, List.singleton_append, value?,
      skipSpace_cons (by decide)]
    by_cases hne : items = []
    · subst hne
      simp [printItems, skipSpace, isSpace]
    · -- the reader looks at one more character to tell items from the closing bracket
      have hread := items?_printItems hne ih (show _ ≤ fuel by omega) rest
      obtain ⟨c, s, hprint, hspace, hclose⟩ := exists_printItems_eq_cons hne hitems
      rw [hprint, List.cons_append] at hread ⊢
      simp only [skipSpace_cons hspace]
      split
      · simp_all
      · simp [hread]
  | @object members hlisted hmembers ih =>
    intro fuel rest hfuel
    rw [print, List.length_append, List.length_cons, List.length_singleton] at hfuel
    obtain ⟨fuel, rfl⟩ : ∃ n, fuel = n + 1 := ⟨fuel - 1, by omega⟩
    rw [print, List.append_assoc, List.cons_append, List.singleton_append, value?,
      skipSpace_cons (by decide)]
    by_cases hne : members = []
    · subst hne
      simp [printMembers, skipSpace, isSpace]
    · -- members in order are their own listing, so that listing them anew changes nothing
      have hread := pairs?_printMembers hne ih (show _ ≤ fuel by omega) rest
      obtain ⟨s, hprint⟩ := exists_printMembers_eq_cons hne
      rw [hprint, List.cons_append] at hread ⊢
      have hspace : isSpace '"' = false := by decide
      simp only [skipSpace_cons hspace]
      simp [hread, Members.ofPairs_of_isListed hlisted]

/-- **Round trip.** A printed value is read as this value. -/
theorem parse?_print {v : Json} (hv : IsTextual v) : parse? (print v) = some v := by
  have hread := value?_print hv ((print v).length + 1) [] (by omega)
  rw [List.append_nil] at hread
  simp [parse?, hread, skipSpace]

/-! ### Order -/

/-- An object at the front of a text lists its members in order. -/
theorem isListed_of_value? {fuel : Nat} {s rest : List Char} {members : Members Json}
    (h : value? fuel s = some (.object members, rest)) : members.IsListed := by
  cases fuel with
  | zero => simp [value?] at h
  | succ fuel =>
    rw [value?] at h
    -- of the seven beginnings of a value, only the third gives an object
    split at h
    case h_2 => split at h <;> simp [Option.bind_eq_some_iff] at h
    case h_3 =>
      split at h
      · cases h
        exact List.Pairwise.nil
      · simp only [Option.bind_eq_bind, Option.bind_eq_some_iff, Option.pure_def,
          Option.some.injEq, Prod.mk.injEq, object.injEq] at h
        obtain ⟨⟨pairs, tail⟩, -, rfl, -⟩ := h
        exact Members.isListed_ofPairs pairs
    all_goals simp [Option.bind_eq_some_iff] at h

/-- An object that is read lists its members in order. -/
theorem isListed_of_parse? {s : List Char} {members : Members Json}
    (h : parse? s = some (.object members)) : members.IsListed := by
  rw [parse?] at h
  split at h
  · rename_i v rest hvalue
    split at h
    · cases h
      exact isListed_of_value? hvalue
    · cases h
  · cases h

end ImageBuild.Json
