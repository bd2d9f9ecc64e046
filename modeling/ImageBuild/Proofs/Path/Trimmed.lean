import ImageBuild.Proofs.Path.Drive
import ImageBuild.Proofs.Text.SmallLetters

namespace ImageBuild.Path.Windows

/-!
# Trimmed texts — the drive and the names of a location in small letters

Paths are compared by their texts in small letters, from which separators at the ends are taken away.
Of the text of a location this leaves `DriveLocation.trimmed`, the drive and a separator in front of
every name:

* `trimSeparators_lower_text` — trimming the small letters gives the small letters of the trimmed
  text, though a letter may become several;
* `split_trimmed` — cut at its separators, it is the drive and the names, so that texts that are
  equal, or go on behind one another with a separator, belong to names that do
  (`names_of_trimmed`, `prefix_of_trimmed`);
* `lower_text_eq_iff` — in small letters, texts are equal exactly when trimmed ones are.
-/

/-! ### The text of a location without a separator at its end -/

/-- The text of a location without a separator at its end: the drive, and a separator in front of
    every name. -/
def DriveLocation.trimmed (l : DriveLocation) : List Char :=
  l.drive :: ':' :: l.names.flatMap ('\\' :: ·)

/-- Names with a separator in front of each are their join behind a separator. -/
theorem flatMap_eq_join {names : List (List Char)} (hne : names ≠ []) :
    names.flatMap ('\\' :: ·) = '\\' :: Text.join '\\' names := by
  obtain ⟨name, rest, rfl⟩ := List.exists_cons_of_ne_nil hne
  rw [List.flatMap_cons, Text.join_cons, List.cons_append]

/-- With names, the text of a location has no separator at its end. -/
theorem text_eq_trimmed {l : DriveLocation} (hne : l.names ≠ []) : l.text false = l.trimmed := by
  rw [DriveLocation.trimmed, flatMap_eq_join hne]
  simp [DriveLocation.text, textOf]

/-- Without names, it is the drive and a separator. -/
theorem text_eq_trimmed_append {l : DriveLocation} (hnames : l.names = []) :
    l.text false = l.trimmed ++ ['\\'] := by
  simp [DriveLocation.trimmed, DriveLocation.text, textOf, hnames, Text.join]

/-- The trimmed text is at the front of the text. -/
theorem trimmed_front (l : DriveLocation) : l.trimmed <+: l.text false := by
  by_cases hnames : l.names = []
  · exact ⟨_, (text_eq_trimmed_append hnames).symm⟩
  · exact ⟨[], by rw [List.append_nil, text_eq_trimmed hnames]⟩

/-- The location that more names lead to. -/
def DriveLocation.below (l : DriveLocation) (more : List (List Char)) : DriveLocation :=
  { l with names := l.names ++ more }

/-- Further down, the text goes on behind a separator. -/
theorem trimmed_below (l : DriveLocation) {more : List (List Char)} (hmore : more ≠ []) :
    (l.below more).trimmed = l.trimmed ++ '\\' :: Text.join '\\' more := by
  simp [DriveLocation.trimmed, DriveLocation.below, ← flatMap_eq_join hmore]

/-- Below a drive, the third character of a trimmed text is the first separator. -/
theorem exists_trimmed_eq {l : DriveLocation} (hne : l.names ≠ []) :
    ∃ rest, l.trimmed = [l.drive, ':', '\\'] ++ rest := by
  refine ⟨Text.join '\\' l.names, ?_⟩
  rw [DriveLocation.trimmed, flatMap_eq_join hne]
  rfl

/-! ### Cutting at separators -/

/-- A character of a name is no backslash. -/
theorem ne_backslash_of_isName {name : List Char} (hname : IsName isSeparator name) {c : Char}
    (hc : c ∈ name) : c ≠ '\\' := by
  rintro rfl
  exact absurd (hname.free _ hc) (by decide)

/-- The letters of drives are ASCII letters. -/
theorem isDriveLetter_iff (c : Char) : isDriveLetter c = true ↔
    65 ≤ c.toNat ∧ c.toNat ≤ 90 ∨ 97 ≤ c.toNat ∧ c.toNat ≤ 122 := by
  change (decide (65 ≤ c.toNat ∧ c.toNat ≤ 90) ||
    decide (97 ≤ c.toNat) && decide (c.toNat ≤ 122)) = true ↔ _
  simp only [Bool.or_eq_true, Bool.and_eq_true, decide_eq_true_eq]

/-- The letters of drives are ASCII characters. -/
theorem toNat_lt_of_isDriveLetter {c : Char} (h : isDriveLetter c = true) : c.toNat < 0x80 := by
  rcases (isDriveLetter_iff c).1 h with h | h <;> omega

section Cut

variable {l : DriveLocation} (hl : l.IsNamed)

include hl

/-- The letter of a drive is no backslash. -/
theorem drive_ne_backslash : l.drive ≠ '\\' :=
  ne_of_isDriveLetter hl.letter (by decide)

/-- Cut at its separators, a trimmed text is the drive and the names. -/
theorem split_trimmed : Text.split (· == '\\') l.trimmed = [l.drive, ':'] :: l.names := by
  have hdrive : ∀ c ∈ [l.drive, ':'], (c == '\\') = false := by
    simp [drive_ne_backslash hl]
  have hfree : ∀ name ∈ l.names, ∀ c ∈ name, (c == '\\') = false := fun name hname c hc =>
    beq_eq_false_iff_ne.2 (ne_backslash_of_isName (hl.isName name hname) hc)
  by_cases hne : l.names = []
  · rw [DriveLocation.trimmed, hne]
    exact Text.split_of_free hdrive
  · rw [DriveLocation.trimmed, flatMap_eq_join hne,
      show l.drive :: ':' :: '\\' :: Text.join '\\' l.names =
        [l.drive, ':'] ++ '\\' :: Text.join '\\' l.names from rfl,
      Text.split_append_cons rfl, Text.split_of_free hdrive, Text.split_join rfl hne hfree]
    rfl

/-- No piece of a trimmed text is empty. -/
theorem ne_nil_of_mem_split_trimmed {piece : List Char}
    (hpiece : piece ∈ Text.split (· == '\\') l.trimmed) : piece ≠ [] := by
  rw [split_trimmed hl, List.mem_cons] at hpiece
  rcases hpiece with rfl | hname
  · simp
  · exact (hl.isName piece hname).ne_nil

end Cut

section Names

variable {s t : DriveLocation} (hs : s.IsNamed) (ht : t.IsNamed)

include hs ht

/-- A trimmed text that goes on behind another one with a separator has its drive, and its names
    first. -/
theorem prefix_of_trimmed {rest : List Char} (h : t.trimmed = s.trimmed ++ '\\' :: rest) :
    s.names <+: t.names := by
  have hpieces := split_trimmed ht
  rw [h, Text.split_append_cons rfl, split_trimmed hs, List.cons_append, List.cons.injEq] at hpieces
  exact ⟨_, hpieces.2⟩

/-- Locations with the same trimmed text have the same names. -/
theorem names_of_trimmed (h : t.trimmed = s.trimmed) : s.names = t.names := by
  have hpieces := split_trimmed ht
  rw [h, split_trimmed hs, List.cons.injEq] at hpieces
  exact hpieces.2

end Names

/-! ### Trimming -/

/-- Without a separator at its ends, a text is trimmed. -/
theorem trimSeparators_eq_self {p : List Char} (hhead : p.head? ≠ some '\\')
    (hlast : p.getLast? ≠ some '\\') : trimSeparators p = p := by
  cases p with
  | nil => rfl
  | cons c rest =>
    rw [trimSeparators, List.dropWhile_cons_of_neg (by simpa using hhead)]
    dsimp only
    rcases rest.eq_nil_or_concat with rfl | ⟨front, d, rfl⟩
    · rfl
    · have hd : d ≠ '\\' := by
        rintro rfl
        exact hlast (by simp [List.getLast?_cons])
      simp [hd]

/-- A separator at the end does not matter. -/
theorem trimSeparators_append (p : List Char) : trimSeparators (p ++ ['\\']) = trimSeparators p := by
  unfold trimSeparators
  cases hp : p.dropWhile (· == '\\') with
  | nil => simp [List.dropWhile_append, hp]
  | cons c rest => simp [List.dropWhile_append, hp]

section Small

variable {l : DriveLocation} (hl : l.IsNamed)

include hl

/-- In small letters, the pieces of a trimmed text are those of the drive and the names. -/
theorem lower_trimmed_eq_join :
    Text.lower l.trimmed = Text.join '\\' (([l.drive, ':'] :: l.names).map Text.lower) := by
  rw [← split_trimmed hl, ← Text.lower_join, Text.join_split]

/-- The small letters of a drive are those of an ASCII text. -/
theorem lower_drive : Text.lower [l.drive, ':'] = [Text.asciiLower l.drive, ':'] := by
  refine Text.lower_of_isAscii fun c hc => ?_
  rw [List.mem_cons, List.mem_singleton] at hc
  rcases hc with rfl | rfl
  · exact toNat_lt_of_isDriveLetter hl.letter
  · decide

/-- In small letters, a trimmed text starts with the drive, and a separator or nothing follows. -/
theorem exists_lower_trimmed_eq :
    ∃ rest, Text.lower l.trimmed = Text.asciiLower l.drive :: ':' :: rest ∧
      (rest = [] ∨ rest.head? = some '\\') := by
  obtain ⟨rest, hjoin, hrest⟩ :=
    Text.join_cons_eq_append '\\' (Text.lower [l.drive, ':']) (l.names.map Text.lower)
  refine ⟨rest, ?_, hrest⟩
  rw [lower_trimmed_eq_join hl, List.map_cons, hjoin, lower_drive hl]
  rfl

/-- In small letters, no separator stands at the end of a trimmed text. -/
theorem getLast?_lower_trimmed : (Text.lower l.trimmed).getLast? ≠ some '\\' := by
  intro hlast
  -- the last piece would be empty, and so would be what it is made from
  have hpiece : (Text.split (· == '\\') (Text.lower l.trimmed)).getLast? = some [] :=
    Text.getLast?_split_of_getLast? rfl hlast
  rw [Text.split_lower, List.getLast?_map, Option.map_eq_some_iff] at hpiece
  obtain ⟨piece, hmem, hempty⟩ := hpiece
  exact ne_nil_of_mem_split_trimmed hl (List.mem_of_getLast? hmem)
    ((Text.lower_eq_nil_iff piece).1 hempty)

/-- Trimming the small letters of the text of a location gives those of its trimmed text. -/
theorem trimSeparators_lower_text :
    trimSeparators (Text.lower (l.text false)) = Text.lower l.trimmed := by
  have hhead : (Text.lower l.trimmed).head? ≠ some '\\' := by
    obtain ⟨rest, htext, -⟩ := exists_lower_trimmed_eq hl
    rw [htext, List.head?_cons, ne_eq, Option.some.injEq, Text.asciiLower_eq_iff (by decide)]
    exact drive_ne_backslash hl
  have htrimmed := trimSeparators_eq_self hhead (getLast?_lower_trimmed hl)
  by_cases hnames : l.names = []
  · rw [text_eq_trimmed_append hnames, Text.lower_append_backslash,
      show Text.lower [] = [] from rfl, trimSeparators_append, htrimmed]
  · rw [text_eq_trimmed hnames, htrimmed]

end Small

/-- In small letters, too, the trimmed text is at the front of the text. -/
theorem lower_trimmed_front (l : DriveLocation) :
    Text.lower l.trimmed <+: Text.lower (l.text false) := by
  by_cases hnames : l.names = []
  · rw [text_eq_trimmed_append hnames, Text.lower_append_backslash]
    exact List.prefix_append _ _
  · exact ⟨[], by rw [List.append_nil, text_eq_trimmed hnames]⟩

/-- In small letters, the texts of two locations are equal exactly when their trimmed texts are. -/
theorem lower_text_eq_iff {s t : DriveLocation} (hs : s.IsNamed) (ht : t.IsNamed) :
    Text.lower (s.text false) = Text.lower (t.text false) ↔
      Text.lower s.trimmed = Text.lower t.trimmed := by
  constructor
  · intro h
    rw [← trimSeparators_lower_text hs, ← trimSeparators_lower_text ht, h]
  · intro h
    -- the two locations have equally many names
    have hpieces := congrArg (Text.split (· == '\\')) h
    rw [Text.split_lower, Text.split_lower, split_trimmed hs, split_trimmed ht] at hpieces
    have hlength : s.names.length = t.names.length := by
      simpa using congrArg List.length hpieces
    by_cases hnames : s.names = []
    · have hnames' : t.names = [] := by simpa [hnames] using hlength.symm
      rw [text_eq_trimmed_append hnames, text_eq_trimmed_append hnames',
        Text.lower_append_backslash, Text.lower_append_backslash, h]
    · have hnames' : t.names ≠ [] := by
        rintro hnil
        exact hnames (by simpa [hnil] using hlength)
      rw [text_eq_trimmed hnames, text_eq_trimmed hnames', h]

end ImageBuild.Path.Windows
