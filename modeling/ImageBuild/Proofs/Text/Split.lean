import ImageBuild.Text.Split
import Mathlib.Data.List.TakeDrop
import Mathlib.Data.List.TakeWhile

namespace ImageBuild.Text

/-!
# Splitting — pieces and separators, taken apart and put together

`split` and `join` undo each other (`join_split`), on pieces that hold no separator (`split_join`),
and a separator cuts a text into the pieces of both sides (`split_append_cons`).
-/

variable {isSeparator : Char → Bool}

/-- A text has at least one piece. -/
theorem exists_split_eq_cons (isSeparator : Char → Bool) (s : List Char) :
    ∃ piece pieces, split isSeparator s = piece :: pieces := by
  fun_cases split isSeparator s <;> simp_all

/-- A character that is no separator belongs to the first piece. -/
theorem split_cons_of_not {c : Char} (hc : isSeparator c = false) {s piece : List Char}
    {pieces : List (List Char)} (hs : split isSeparator s = piece :: pieces) :
    split isSeparator (c :: s) = (c :: piece) :: pieces := by
  simp [split, hc, hs]

/-- A separator cuts a text into the pieces of both sides. -/
theorem split_append_cons {c : Char} (hc : isSeparator c = true) (s t : List Char) :
    split isSeparator (s ++ c :: t) = split isSeparator s ++ split isSeparator t := by
  induction s with
  | nil => simp [split, hc]
  | cons d s ih =>
    by_cases hd : isSeparator d = true
    · simp [split, hd, ih]
    · have hd : isSeparator d = false := by simpa using hd
      obtain ⟨piece, pieces, hs⟩ := exists_split_eq_cons isSeparator s
      rw [List.cons_append, split_cons_of_not hd hs]
      exact split_cons_of_not hd (by rw [ih, hs]; rfl)

/-- After a last separator there is an empty piece. -/
theorem getLast?_split_of_getLast? {c : Char} (hc : isSeparator c = true) {s : List Char}
    (hs : s.getLast? = some c) : (split isSeparator s).getLast? = some [] := by
  obtain ⟨front, rfl⟩ := List.getLast?_eq_some_iff.1 hs
  rw [split_append_cons hc]
  simp [split]

/-- A text without separators is its only piece. -/
theorem split_of_free {s : List Char} (hs : ∀ c ∈ s, isSeparator c = false) :
    split isSeparator s = [s] := by
  induction s with
  | nil => rfl
  | cons c s ih =>
    exact split_cons_of_not (hs c (by simp)) (ih fun d hd => hs d (by simp [hd]))

/-- No piece holds a separator. -/
theorem free_of_mem_split {s piece : List Char} (hp : piece ∈ split isSeparator s) :
    ∀ c ∈ piece, isSeparator c = false := by
  induction s generalizing piece with
  | nil => simp_all [split]
  | cons d s ih =>
    obtain ⟨first, rest, hs⟩ := exists_split_eq_cons isSeparator s
    by_cases hd : isSeparator d = true
    · rw [split, if_pos hd, List.mem_cons] at hp
      rcases hp with rfl | hp
      · simp
      · exact ih hp
    · have hd : isSeparator d = false := by simpa using hd
      rw [split_cons_of_not hd hs, List.mem_cons] at hp
      rcases hp with rfl | hp
      · have hfirst : ∀ c ∈ first, isSeparator c = false := ih (by simp [hs])
        simpa [hd] using hfirst
      · exact ih (by simp [hs, hp])

/-- What a piece holds is in the text. -/
theorem mem_of_mem_split {s piece : List Char} (hp : piece ∈ split isSeparator s) {c : Char}
    (hc : c ∈ piece) : c ∈ s := by
  induction s generalizing piece with
  | nil => simp_all [split]
  | cons d s ih =>
    obtain ⟨first, rest, hs⟩ := exists_split_eq_cons isSeparator s
    by_cases hd : isSeparator d = true
    · rw [split, if_pos hd, List.mem_cons] at hp
      rcases hp with rfl | hp
      · cases hc
      · exact List.mem_cons_of_mem d (ih hp hc)
    · have hd : isSeparator d = false := by simpa using hd
      rw [split_cons_of_not hd hs, List.mem_cons] at hp
      rcases hp with rfl | hp
      · rcases List.mem_cons.1 hc with rfl | hc
        · exact List.mem_cons_self
        · exact List.mem_cons_of_mem d (ih (by simp [hs]) hc)
      · exact List.mem_cons_of_mem d (ih (by simp [hs, hp]) hc)

/-- Which separators stand between the pieces does not matter. -/
theorem split_map {f : Char → Char} (hsep : ∀ c, isSeparator (f c) = isSeparator c)
    (hkeep : ∀ c, isSeparator c = false → f c = c) (s : List Char) :
    split isSeparator (s.map f) = split isSeparator s := by
  induction s with
  | nil => rfl
  | cons c s ih =>
    by_cases hc : isSeparator c = true
    · simp [split, hsep, hc, ih]
    · have hc : isSeparator c = false := by simpa using hc
      simp [split, hc, hkeep c hc, ih]

/-- Pieces that hold no separator are the pieces of their join. -/
theorem split_join {separator : Char} (hsep : isSeparator separator = true)
    {pieces : List (List Char)} (hne : pieces ≠ [])
    (hfree : ∀ piece ∈ pieces, ∀ c ∈ piece, isSeparator c = false) :
    split isSeparator (join separator pieces) = pieces := by
  fun_induction join separator pieces with
  | case1 => exact absurd rfl hne
  | case2 piece => exact split_of_free (hfree piece (by simp))
  | case3 piece rest hrest ih =>
    have hrest : rest ≠ [] := by simpa using hrest
    rw [split_append_cons hsep, split_of_free (hfree piece (by simp)),
      ih hrest fun p hp => hfree p (by simp [hp])]
    rfl

/-- A text is the join of its pieces. -/
theorem join_split (separator : Char) (s : List Char) :
    join separator (split (· == separator) s) = s := by
  induction s with
  | nil => rfl
  | cons c s ih =>
    obtain ⟨piece, pieces, hs⟩ := exists_split_eq_cons (· == separator) s
    rw [hs] at ih
    by_cases hc : c = separator
    · rw [split, if_pos (by simpa using hc), hs]
      simp [join, ih, hc]
    · rw [split_cons_of_not (by simpa using hc) hs]
      cases pieces with
      | nil => simpa [join] using ih
      | cons next pieces => simpa [join] using ih

/-- The pieces of a text are those that hold no separator and whose join it is. -/
theorem split_eq_iff {separator : Char} {s : List Char} {pieces : List (List Char)} :
    split (· == separator) s = pieces ↔
      pieces ≠ [] ∧ (∀ piece ∈ pieces, separator ∉ piece) ∧ join separator pieces = s := by
  constructor
  · rintro rfl
    refine ⟨?_, ?_, join_split separator s⟩
    · obtain ⟨piece, pieces, hs⟩ := exists_split_eq_cons (· == separator) s
      simp [hs]
    · intro piece hpiece hmem
      simpa using free_of_mem_split hpiece separator hmem
  · rintro ⟨hne, hfree, rfl⟩
    refine split_join (by simp) hne fun piece hpiece c hc => ?_
    rw [beq_eq_false_iff_ne]
    rintro rfl
    exact hfree piece hpiece hc

/-- All pieces of a join but the first stand behind a separator. -/
theorem join_cons (separator : Char) (piece : List Char) (pieces : List (List Char)) :
    join separator (piece :: pieces) = piece ++ pieces.flatMap (separator :: ·) := by
  induction pieces generalizing piece with
  | nil => simp [join]
  | cons next pieces ih =>
    rw [join, ih, List.flatMap_cons, List.cons_append]
    simp

/-- What a join holds is a separator or in one of the pieces. -/
theorem mem_join {separator c : Char} {pieces : List (List Char)} (h : c ∈ join separator pieces) :
    c = separator ∨ ∃ piece ∈ pieces, c ∈ piece := by
  fun_induction join separator pieces with
  | case1 => cases h
  | case2 piece => exact .inr ⟨piece, by simp, h⟩
  | case3 piece rest hrest ih =>
    rw [List.mem_append, List.mem_cons] at h
    rcases h with h | h | h
    · exact .inr ⟨piece, by simp, h⟩
    · exact .inl h
    · refine (ih h).imp_right ?_
      rintro ⟨other, hother, hc⟩
      exact ⟨other, List.mem_cons_of_mem _ hother, hc⟩

/-- A join is mapped with its separator. -/
theorem map_join (f : Char → Char) (separator : Char) (pieces : List (List Char)) :
    (join separator pieces).map f = join (f separator) (pieces.map (·.map f)) := by
  fun_induction join separator pieces with
  | case1 => rfl
  | case2 piece => rfl
  | case3 piece rest hrest ih =>
    obtain ⟨next, pieces, rfl⟩ := List.exists_cons_of_ne_nil (show rest ≠ [] by simpa using hrest)
    simp [join, ih]

/-- The join of pieces starts with the first one. -/
theorem join_cons_eq_append (separator : Char) (piece : List Char) (pieces : List (List Char)) :
    ∃ rest, join separator (piece :: pieces) = piece ++ rest ∧
      (rest = [] ∨ rest.head? = some separator) := by
  cases pieces with
  | nil => exact ⟨[], by simp [join], Or.inl rfl⟩
  | cons next pieces => exact ⟨separator :: join separator (next :: pieces), rfl, Or.inr rfl⟩

/-- The join of pieces ends with the last one, behind a separator if it is not the only one. -/
theorem join_concat_eq_append (separator : Char) (pieces : List (List Char)) (piece : List Char) :
    ∃ front, join separator (pieces ++ [piece]) = front ++ piece ∧
      (front = [] ∨ front.getLast? = some separator) := by
  induction pieces with
  | nil => exact ⟨[], by simp [join], .inl rfl⟩
  | cons first pieces ih =>
    obtain ⟨front, hjoin, hfront⟩ := ih
    have hstep : join separator (first :: pieces ++ [piece]) =
        first ++ separator :: join separator (pieces ++ [piece]) := by
      simp [join]
    refine ⟨first ++ separator :: front, by rw [hstep, hjoin, List.append_assoc]; rfl, .inr ?_⟩
    rcases hfront with rfl | hlast
    · simp
    · simp [List.getLast?_append, List.getLast?_cons, hlast]

/-- A join of pieces that are not empty is not empty. -/
theorem join_ne_nil {separator : Char} {pieces : List (List Char)} (hne : pieces ≠ [])
    (hpieces : ∀ piece ∈ pieces, piece ≠ []) : join separator pieces ≠ [] := by
  obtain ⟨piece, rest, rfl⟩ := List.exists_cons_of_ne_nil hne
  obtain ⟨ending, hjoin, -⟩ := join_cons_eq_append separator piece rest
  simp [hjoin, hpieces piece (by simp)]

/-- What stands before the first separator of a join is its first piece. -/
theorem takeWhile_join_cons (separator : Char) {piece : List Char}
    (hfree : ∀ c ∈ piece, c ≠ separator) (pieces : List (List Char)) :
    (join separator (piece :: pieces)).takeWhile (· ≠ separator) = piece := by
  obtain ⟨rest, hjoin, hrest⟩ := join_cons_eq_append separator piece pieces
  rw [hjoin, List.takeWhile_append_of_pos (by simpa using hfree)]
  rcases hrest with rfl | hhead
  · simp
  · cases rest with
    | nil => simp at hhead
    | cons c rest => simp_all

/-- A text ends for `span` at its first separator. -/
theorem span_append_cons {separator : Char} {front : List Char} (h : separator ∉ front)
    (rest : List Char) :
    (front ++ separator :: rest).span (· ≠ separator) = (front, separator :: rest) := by
  have hfront : ∀ c ∈ front, decide (c ≠ separator) = true := by
    intro c hc
    rw [decide_eq_true_eq]
    rintro rfl
    exact h hc
  rw [List.span_eq_takeWhile_dropWhile, List.takeWhile_append_of_pos hfront,
    List.dropWhile_append_of_pos hfront]
  simp

/-- A text without separators has no end for `span`. -/
theorem span_of_notMem {separator : Char} {s : List Char} (h : separator ∉ s) :
    s.span (· ≠ separator) = (s, []) := by
  have hall : ∀ c ∈ s, decide (c ≠ separator) = true := by
    intro c hc
    rw [decide_eq_true_eq]
    rintro rfl
    exact h hc
  rw [List.span_eq_takeWhile_dropWhile, List.takeWhile_eq_self_iff.2 hall,
    List.dropWhile_eq_nil_iff.2 hall]

/-- The first place of a separator parts a text in one way. -/
theorem append_cons_unique {α : Type} {a : α} {u u' p p' : List α}
    (h : u ++ a :: p = u' ++ a :: p') (hu : a ∉ u) (hu' : a ∉ u') : u = u' ∧ p = p' := by
  induction u generalizing u' with
  | nil =>
    cases u' with
    | nil => exact ⟨rfl, (List.cons.inj h).2⟩
    | cons b u' => exact absurd (List.cons.inj h).1 (List.ne_of_not_mem_cons hu')
  | cons b u ih =>
    cases u' with
    | nil => exact absurd (List.cons.inj h).1.symm (List.ne_of_not_mem_cons hu)
    | cons c u' =>
      simp only [List.cons_append, List.cons.injEq, List.mem_cons, not_or] at h hu hu'
      obtain ⟨rfl, rfl⟩ := ih h.2 hu.2 hu'.2
      exact ⟨by rw [h.1], rfl⟩

/-- What stands behind two separators is the same, with the same separator in front, when neither
    holds the separator of the other. -/
theorem append_cons_inj_last {α : Type} {a b : α} {u w p q : List α}
    (h : u ++ a :: p = w ++ b :: q) (hb : b ∉ p) (ha : a ∉ q) : u = w ∧ a = b ∧ p = q := by
  rcases List.append_eq_append_iff.1 h with ⟨middle, rfl, hmiddle⟩ | ⟨middle, rfl, hmiddle⟩
  · cases middle with
    | nil => simpa using hmiddle
    | cons c middle =>
      obtain ⟨-, rfl⟩ := List.cons.inj hmiddle
      exact absurd (by simp) hb
  · cases middle with
    | nil => simpa [eq_comm] using hmiddle
    | cons c middle =>
      obtain ⟨-, rfl⟩ := List.cons.inj hmiddle
      exact absurd (by simp) ha

/-- What stands before `d` begins with a piece without `d` that the text begins with. -/
theorem exists_append_of_notMem {α : Type} {d : α} {a b c z : List α} (hd : d ∉ b)
    (h : a ++ d :: z = b ++ c) : ∃ e, a = b ++ e ∧ c = e ++ d :: z := by
  rcases List.append_eq_append_iff.1 h with ⟨e, hb, hz⟩ | ⟨e, ha, hc⟩
  · cases e with
    | nil => exact ⟨[], by rw [hb, List.append_nil, List.append_nil], hz.symm⟩
    | cons f e =>
      obtain ⟨rfl, -⟩ := List.cons.inj hz
      exact absurd (by rw [hb]; simp) hd
  · exact ⟨e, ha, hc⟩

end ImageBuild.Text
