import ImageBuild.Settings
import Mathlib.Data.List.Infix

namespace ImageBuild.Settings

/-!
# Settings — where the config directory is

`denotedDirectory` says which directory a setting denotes, with the home directory taken as it is.
The tilde is filled in by a replacement, in which a dollar sign before one of four marks stands for
something else: a home directory is filled in unchanged exactly when it holds no such pair
(`fillReplacement_eq_self_iff`), so that the config directory is the denoted one unless the setting
starts at a home directory with such a pair (`configDirectory_eq_iff`).
-/

/-- The marks of a pair that may be shortened: another dollar sign, and the two quotes. -/
def shortMarks : List Char := ['$', Char.ofNat 0x60, Char.ofNat 0x27]

/-- The characters that a dollar sign is read together with. -/
def marks : List Char := '&' :: shortMarks

/-- Somewhere in a text a dollar sign stands before a mark. -/
def HasMark (s : List Char) : Prop := ∃ mark ∈ marks, ['$', mark] <:+: s

/-- The setting of the config directory, empty when there is none. -/
def configSetting (e : Environment) : List Char := ((e.get? "DOCKER_CONFIG").getD "").toList

/-- A setting starts at the home directory: it is a tilde, or a tilde stands before a slash. -/
def StartsAtHome (setting : List Char) : Prop := setting = ['~'] ∨ ['~', '/'] <+: setting

/-- The directory that a setting denotes: the usual one when it is empty, the home directory with
    what follows the tilde when it starts there, and otherwise the setting itself. -/
def denotedDirectory (home setting : List Char) : List Char :=
  match setting with
  | [] => Path.Posix.normalize (home ++ "/.docker".toList)
  | ['~'] => home
  | '~' :: '/' :: rest => home ++ '/' :: rest
  | directory => directory

/-! ### Filling in -/

section Fill

variable {rest s : List Char}

/-- A dollar sign before a mark is a pair, wherever it stands. -/
theorem HasMark.here {c : Char} (hc : c ∈ marks) : HasMark ('$' :: c :: s) :=
  ⟨c, hc, (List.prefix_append ['$', c] s).isInfix⟩

/-- A text without dollar signs has no pairs. -/
theorem not_hasMark_of_notMem (h : '$' ∉ s) : ¬ HasMark s := by
  rintro ⟨mark, -, hpair⟩
  exact h (hpair.subset (by simp))

/-- Where a text does not start with a pair, its pairs are those behind its first character. -/
theorem hasMark_cons_iff {c : Char} (h : ∀ mark ∈ marks, ¬ ['$', mark] <+: c :: s) :
    HasMark (c :: s) ↔ HasMark s := by
  simp only [HasMark, List.infix_cons_iff]
  exact exists_congr fun mark => and_congr_right fun hmark => or_iff_right (h mark hmark)

/-- What is filled in is never the text with more marks before it: a pair leaves less or something
    that is no mark, and nothing makes up for that. -/
theorem fillReplacement_ne_append (hrest : rest = [] ∨ rest.head? = some '/') (front : List Char)
    (hne : front ≠ []) (hfront : front ⊆ shortMarks) : fillReplacement rest s ≠ front ++ s := by
  intro h
  -- what is filled in starts with the first mark of the front, and the text that is left has the
  -- other marks and what was filled in before it
  fun_induction fillReplacement rest s generalizing front with
  | case1 s ih =>
    obtain ⟨c, front, rfl⟩ := List.exists_cons_of_ne_nil hne
    rw [List.cons_append, List.cons.injEq] at h
    have hfront := List.subset_of_cons_subset hfront
    have hgrown : front ++ ['$', '$'] ⊆ shortMarks := List.append_subset.2 ⟨hfront, by decide⟩
    exact ih _ (by simp) hgrown (by simpa using h.2)
  | case2 s h1 ih =>
    -- a tilde is no mark
    obtain ⟨c, front, rfl⟩ := List.exists_cons_of_ne_nil hne
    rw [List.cons_append, List.cons.injEq] at h
    rw [List.cons_subset, ← h.1] at hfront
    exact absurd hfront.1 (by decide)
  | case3 s h1 h2 ih =>
    have hgrown : front ++ ['$', Char.ofNat 0x60] ⊆ shortMarks :=
      List.append_subset.2 ⟨hfront, by decide⟩
    exact ih _ (by simp) hgrown (by simpa using h)
  | case4 s h1 h2 h3 ih =>
    rcases hrest with rfl | hslash
    · have hgrown : front ++ ['$', Char.ofNat 0x27] ⊆ shortMarks :=
        List.append_subset.2 ⟨hfront, by decide⟩
      exact ih _ (by simp) hgrown (by simpa using h)
    · -- a slash is no mark
      obtain ⟨c, front, rfl⟩ := List.exists_cons_of_ne_nil hne
      obtain ⟨d, rest, rfl⟩ := List.exists_cons_of_ne_nil (l := rest) (by rintro rfl; cases hslash)
      rw [List.head?_cons, Option.some.injEq] at hslash
      rw [List.cons_append, List.cons_append, List.cons.injEq] at h
      rw [List.cons_subset, ← h.1, hslash] at hfront
      exact absurd hfront.1 (by decide)
  | case5 c s h1 h2 h3 h4 ih =>
    obtain ⟨d, front, rfl⟩ := List.exists_cons_of_ne_nil hne
    rw [List.cons_append, List.cons.injEq] at h
    have hgrown : front ++ ['$'] ⊆ shortMarks :=
      List.append_subset.2 ⟨List.subset_of_cons_subset hfront, by decide⟩
    exact ih _ (by simp) hgrown (by simpa using h.2)
  | case6 c s hno ih =>
    obtain ⟨d, front, rfl⟩ := List.exists_cons_of_ne_nil hne
    rw [List.cons_append, List.cons.injEq] at h
    rw [List.cons_subset, ← h.1] at hfront
    have hgrown : front ++ [c] ⊆ shortMarks :=
      List.append_subset.2 ⟨hfront.2, by simpa using hfront.1⟩
    exact ih _ (by simp) hgrown (by simpa using h.2)
  | case7 => exact hne (by simpa using h.symm)

/-- A text is filled in unchanged exactly when it has no pairs. -/
theorem fillReplacement_eq_self_iff (hrest : rest = [] ∨ rest.head? = some '/') :
    fillReplacement rest s = s ↔ ¬ HasMark s := by
  -- a pair is filled in with less than it, or with another first character
  fun_induction fillReplacement rest s with
  | case1 s ih =>
    refine iff_of_false (fun h => ?_) (not_not_intro (.here (by decide)))
    exact fillReplacement_ne_append hrest ['$'] (by simp) (by decide) (List.cons.inj h).2
  | case2 s h1 ih => exact iff_of_false (by simp) (not_not_intro (.here (by decide)))
  | case3 s h1 h2 ih =>
    refine iff_of_false (fun h => ?_) (not_not_intro (.here (by decide)))
    exact fillReplacement_ne_append hrest ['$', Char.ofNat 0x60] (by simp) (by decide) h
  | case4 s h1 h2 h3 ih =>
    refine iff_of_false (fun h => ?_) (not_not_intro (.here (by decide)))
    cases rest with
    | nil =>
      exact fillReplacement_ne_append hrest ['$', Char.ofNat 0x27] (by simp) (by decide) h
    | cons d rest => simp_all
  | case5 c s h1 h2 h3 h4 ih =>
    -- a dollar sign before any other character stays
    have hno : ∀ mark ∈ marks, ¬ ['$', mark] <+: '$' :: c :: s := by
      intro mark hmark hpair
      rw [List.cons_prefix_cons, List.cons_prefix_cons] at hpair
      have hc : c ∉ marks := by simp [marks, shortMarks, h1, h2, h3, h4]
      exact hc (hpair.2.1 ▸ hmark)
    rw [hasMark_cons_iff hno, ← ih, List.cons.injEq]
    exact and_iff_right rfl
  | case6 c s hno ih =>
    have hno : ∀ mark ∈ marks, ¬ ['$', mark] <+: c :: s := by
      intro mark hmark hpair
      rw [List.cons_prefix_cons] at hpair
      obtain ⟨rfl, d, hs⟩ := hpair
      exact hno mark d rfl (by simpa using hs.symm)
    rw [hasMark_cons_iff hno, ← ih, List.cons.injEq]
    exact and_iff_right rfl
  | case7 => exact iff_of_true rfl (not_hasMark_of_notMem (by simp))

end Fill

/-! ### The config directory -/

section Directory

variable {e : Environment} {home : String}

/-- Without a setting the config directory is the usual one; otherwise the tilde is filled in. -/
theorem toList_configDirectory (hhome : e.get? "HOME" = some home) :
    (configDirectory e).toList =
      if configSetting e = [] then Path.Posix.join [home.toList, ".docker".toList]
      else expandTilde home.toList (configSetting e) := by
  have hvalue : e.home = home := by simp [Environment.home, hhome]
  rw [configDirectory, Environment.filled?, configSetting, hvalue]
  cases e.get? "DOCKER_CONFIG" with
  | none => simp
  | some v => by_cases hv : v = "" <;> simp [Option.filter, hv]

/-- The usual directory is joined to the home directory. -/
theorem join_home {home : List Char} (hne : home ≠ []) :
    Path.Posix.join [home, ".docker".toList] =
      Path.Posix.normalize (home ++ "/.docker".toList) := by
  simp [Path.Posix.join, hne, Text.join]

/-- The tilde is filled in as the setting denotes, unless the home directory has a pair and the
    setting starts there. -/
theorem expandTilde_eq_iff {home setting : List Char} (hne : setting ≠ []) :
    expandTilde home setting = denotedDirectory home setting ↔
      ¬ (StartsAtHome setting ∧ HasMark home) := by
  unfold denotedDirectory
  split
  · exact absurd rfl hne
  · rw [expandTilde, fillReplacement_eq_self_iff (.inl rfl)]
    simp [StartsAtHome]
  · rw [expandTilde, List.append_left_inj, fillReplacement_eq_self_iff (.inr rfl)]
    simp [StartsAtHome]
  · -- neither of the two forms that start at home
    rename_i htilde hslash
    have hnot : ¬ StartsAtHome setting := by
      rintro (rfl | ⟨rest, rfl⟩)
      · exact htilde rfl
      · exact hslash rest rfl
    have hsame : expandTilde home setting = setting := by
      unfold expandTilde
      split <;> simp_all
    exact iff_of_true hsame fun h => hnot h.1

/-- The config directory is the one that the setting denotes, unless the home directory has a pair
    and the setting starts there. -/
theorem configDirectory_eq_iff (hhome : e.get? "HOME" = some home) (hne : home ≠ "") :
    (configDirectory e).toList = denotedDirectory home.toList (configSetting e) ↔
      ¬ (StartsAtHome (configSetting e) ∧ HasMark home.toList) := by
  rw [toList_configDirectory hhome]
  split
  · rename_i hempty
    rw [hempty, join_home (by simpa using hne)]
    exact iff_of_true rfl fun h => by simp [StartsAtHome] at h
  · rename_i hsetting
    exact expandTilde_eq_iff hsetting

end Directory

end ImageBuild.Settings
