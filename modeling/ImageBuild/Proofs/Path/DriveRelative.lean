import ImageBuild.Proofs.Path.Relative
import ImageBuild.Proofs.Text.LowerCase

namespace ImageBuild.Path.Windows

/-!
# Containment and relative paths — where a location with plain names lies from another one

In ASCII a location has small letters of its own (`DriveLocation.small`), and the path from one
location to another says whether the first one contains the second:

* `relative_of_inside` — to a location below lead the names that it has more;
* `takeWhile_relative_of_elsewhere` — to any other location on the drive the path goes up first,
  because it leaves from the place of a separator (`between_of_elsewhere`).

Across drives the target leads to itself (`relative_of_drive_ne`).
-/

/-! ### Small letters -/

/-- A location in small letters. -/
def DriveLocation.small (l : DriveLocation) : DriveLocation :=
  ⟨Text.asciiLower l.drive, l.names.map (·.map Text.asciiLower)⟩

/-- Small letters make no character a separator, and none a special piece. -/
theorem isName_map_asciiLower {name : List Char} (h : IsName isSeparator name) :
    IsName isSeparator (name.map Text.asciiLower) := by
  have hdot : ∀ c, Text.asciiLower c = '.' ↔ c = '.' := Text.asciiLower_eq_iff (by decide)
  have hslash : ∀ c, Text.asciiLower c = '/' ↔ c = '/' := Text.asciiLower_eq_iff (by decide)
  have hbackslash : ∀ c, Text.asciiLower c = '\\' ↔ c = '\\' := Text.asciiLower_eq_iff (by decide)
  refine ⟨by simpa using h.ne_nil, ?_, ?_, ?_⟩
  · intro heq
    refine h.ne_dot ?_
    simpa [dot, List.map_eq_cons_iff, hdot] using heq
  · intro heq
    refine h.ne_dotDot ?_
    simpa [dotDot, List.map_eq_cons_iff, hdot] using heq
  · intro c hc
    obtain ⟨d, hd, rfl⟩ := List.mem_map.1 hc
    have hfree := h.free d hd
    simpa [isSeparator, hslash, hbackslash] using hfree

/-- The small letter of a drive is the letter of a drive. -/
theorem isDriveLetter_asciiLower {c : Char} (h : isDriveLetter c = true) :
    isDriveLetter (Text.asciiLower c) = true := by
  rcases Text.asciiLower_cases c with ⟨hlow, hhigh, heq⟩ | heq
  · rw [isDriveLetter_iff]
    omega
  · rwa [heq]

/-- A well-formed location is one in small letters, too. -/
theorem DriveLocation.WellFormed.small {l : DriveLocation} (hl : l.WellFormed) :
    l.small.WellFormed := by
  have hcolon : ∀ c, Text.asciiLower c = ':' ↔ c = ':' := Text.asciiLower_eq_iff (by decide)
  refine ⟨isDriveLetter_asciiLower hl.letter, fun name hname => ?_, fun name hname => ?_⟩
  · obtain ⟨n, hn, rfl⟩ := List.mem_map.1 hname
    exact isName_map_asciiLower (hl.isName n hn)
  · obtain ⟨n, hn, rfl⟩ := List.mem_map.1 hname
    intro c hc
    obtain ⟨d, hd, rfl⟩ := List.mem_map.1 hc
    obtain ⟨hascii, hne⟩ := hl.plain n hn d hd
    exact ⟨Text.asciiLower_lt hascii, mt (hcolon d).1 hne⟩

/-- The small letters of the text of a location are its text in small letters. -/
theorem map_asciiLower_text (l : DriveLocation) (ended : Bool) :
    (l.text ended).map Text.asciiLower = l.small.text ended := by
  have hbackslash : Text.asciiLower '\\' = '\\' := by decide
  have hcolon : Text.asciiLower ':' = ':' := by decide
  have hjoin : (Text.join '\\' l.names).map Text.asciiLower =
      Text.join '\\' l.small.names := by
    rw [Text.map_join, hbackslash]
    rfl
  have hnames : l.small.names = [] ↔ l.names = [] := List.map_eq_nil_iff
  by_cases hended : ended = true ∧ l.names ≠ []
  · simp [DriveLocation.text, textOf, hjoin, hnames, hended, hbackslash, hcolon]
    rfl
  · simp [DriveLocation.text, textOf, hjoin, hnames, hended, hbackslash, hcolon]
    rfl

/-- The text of a location is ASCII. -/
theorem isAscii_text {l : DriveLocation} (hl : l.WellFormed) : Text.IsAscii (l.text false) := by
  have htext : l.text false = l.drive :: ':' :: '\\' :: Text.join '\\' l.names := by
    simp [DriveLocation.text, textOf]
  intro c hc
  simp only [htext, List.mem_cons] at hc
  rcases hc with rfl | rfl | rfl | hc
  · exact toNat_lt_of_isDriveLetter hl.letter
  · decide
  · decide
  · rcases Text.mem_join hc with rfl | ⟨name, hname, hmem⟩
    · decide
    · exact (hl.plain name hname c hmem).1

/-- The trimmed text of a location is ASCII. -/
theorem isAscii_trimmed {l : DriveLocation} (hl : l.WellFormed) : Text.IsAscii l.trimmed :=
  fun c hc => isAscii_text hl c ((trimmed_front l).subset hc)

/-- The small letters of a trimmed text are the trimmed text in small letters. -/
theorem map_asciiLower_trimmed (l : DriveLocation) :
    l.trimmed.map Text.asciiLower = l.small.trimmed := by
  have hbackslash : Text.asciiLower '\\' = '\\' := by decide
  have hcolon : Text.asciiLower ':' = ':' := by decide
  simp [DriveLocation.trimmed, DriveLocation.small, List.map_flatMap, List.flatMap_map, hbackslash,
    hcolon]

/-- In small letters, the trimmed text of a location is that of the location in small letters. -/
theorem lower_trimmed {l : DriveLocation} (hl : l.WellFormed) :
    Text.lower l.trimmed = l.small.trimmed := by
  rw [Text.lower_of_isAscii (isAscii_trimmed hl), map_asciiLower_trimmed]

/-! ### Between trimmed texts -/

/-- Below a drive, a trimmed text is longer than the drive. -/
theorem unitLength_trimmed_ne {l : DriveLocation} (hl : l.WellFormed) (hne : l.names ≠ []) :
    (Text.unitLength l.trimmed == 2) = false := by
  obtain ⟨rest, htext⟩ := exists_trimmed_eq hne
  rw [Text.unitLength_of_isAscii (isAscii_trimmed hl), htext]
  simp

section Between

variable {s t : DriveLocation} (hs : s.WellFormed) (ht : t.WellFormed) (hdrive : s.drive = t.drive)

include hdrive

/-- Below the same drive, two locations have a separator in common. -/
theorem backslash_mem_shared (hsource : s.names ≠ []) (htarget : t.names ≠ []) :
    '\\' ∈ s.trimmed.take (commonChars s.trimmed t.trimmed) := by
  obtain ⟨sourceRest, hsourceText⟩ := exists_trimmed_eq hsource
  obtain ⟨targetRest, htargetText⟩ := exists_trimmed_eq htarget
  have hlength : 3 ≤ commonChars s.trimmed t.trimmed := by
    rw [hsourceText, htargetText, hdrive]
    exact le_commonChars_append [t.drive, ':', '\\'] _ _
  have hthird : (s.trimmed.take (commonChars s.trimmed t.trimmed))[2]? = some '\\' := by
    rw [List.getElem?_take_of_lt (by omega), hsourceText]
    rfl
  exact List.mem_of_getElem? hthird

/-- From a location to its drive, the drive is in common, and a separator follows it. -/
theorem drop_commonChars_of_drive (hsource : s.names ≠ []) (htarget : t.names = []) :
    (s.trimmed.drop (commonChars s.trimmed t.trimmed)).head? = some '\\' ∧
      t.trimmed.drop (commonChars s.trimmed t.trimmed) = [] := by
  obtain ⟨rest, htext⟩ := exists_trimmed_eq hsource
  have hdriveText : t.trimmed = [t.drive, ':'] := by
    rw [DriveLocation.trimmed, htarget]
    rfl
  have hcommon : commonChars s.trimmed t.trimmed = 2 := by
    rw [htext, hdriveText, hdrive]
    simp [commonChars]
  rw [hcommon, htext, hdriveText]
  exact ⟨rfl, rfl⟩

omit hdrive in
/-- Where the texts of two locations have a separator in common, the last one is in front of a name
    of both. -/
theorem lastSeparator?_shared
    (hmem : '\\' ∈ s.trimmed.take (commonChars s.trimmed t.trimmed)) :
    ∃ i, lastSeparator? (s.trimmed.take (commonChars s.trimmed t.trimmed)) = some i ∧
      i < s.trimmed.length ∧ ∀ c, (t.trimmed.drop i).head? = some c → c = '\\' := by
  obtain ⟨i, hlast, hi⟩ := lastSeparator?_of_mem hmem
  have hlt : i < commonChars s.trimmed t.trimmed := by
    by_contra hge
    rw [List.getElem?_take_eq_none (by omega)] at hi
    cases hi
  have hsource : s.trimmed[i]? = some '\\' := by rwa [List.getElem?_take_of_lt hlt] at hi
  have htarget : t.trimmed[i]? = some '\\' := by
    rwa [take_commonChars, List.getElem?_take_of_lt hlt] at hi
  refine ⟨i, hlast, (List.getElem?_eq_some_iff.1 hsource).1, fun c hc => ?_⟩
  rw [List.head?_drop, htarget, Option.some.injEq] at hc
  exact hc.symm

include hs ht

/-- Where the names of the first location are not in front of those of the second, the path between
    them leaves at the place of a separator, or where the second one ends. -/
theorem between_of_elsewhere (hout : ¬ s.names <+: t.names) (written whole : List Char) :
    ∃ i < s.trimmed.length, (∀ c, (t.trimmed.drop i).head? = some c → c = '\\') ∧
      between s.trimmed t.trimmed written whole = leave s.trimmed t.trimmed written i := by
  have hsource : s.names ≠ [] := by
    intro hnil
    exact hout (hnil ▸ List.nil_prefix)
  have hlast := lastSeparator?_shared (s := s) (t := t)
  have hdriveOnly := drop_commonChars_of_drive hdrive hsource
  have hmem := backslash_mem_shared hdrive hsource
  have hshared := take_commonChars s.trimmed t.trimmed
  obtain ⟨sourceRest, hsourceText⟩ := exists_trimmed_eq hsource
  generalize hcommon : commonChars s.trimmed t.trimmed = common at hlast hmem hshared hdriveOnly
  cases hA : s.trimmed.drop common with
  | nil =>
    have htake : s.trimmed.take common = s.trimmed :=
      List.take_of_length_le (List.drop_eq_nil_iff.1 hA)
    cases hB : t.trimmed.drop common with
    | nil =>
      -- both texts are all common, so that the names are the same
      have hsame : t.trimmed = s.trimmed := by
        rw [← htake, hshared, List.take_of_length_le (List.drop_eq_nil_iff.1 hB)]
      exact absurd (names_of_trimmed hs.isNamed ht.isNamed hsame ▸ List.prefix_refl _) hout
    | cons c rest =>
      have htext : t.trimmed = s.trimmed ++ c :: rest := by
        rw [← htake, hshared, ← hB, List.take_append_drop]
      by_cases hc : c = '\\'
      · exact absurd (prefix_of_trimmed hs.isNamed ht.isNamed (hc ▸ htext)) hout
      · -- the last name of the first location is the front of a longer one
        obtain ⟨i, hi, hlt, hhead⟩ := hlast (by rw [htake, hsourceText]; simp)
        refine ⟨i, hlt, hhead, ?_⟩
        rw [htake] at hi
        simp [between, hcommon, hA, hB, htake, hi, unitLength_trimmed_ne hs hsource]
  | cons a sourceTail =>
    have hlt : common < s.trimmed.length := List.length_lt_of_drop_ne_nil (by simp [hA])
    cases hB : t.trimmed.drop common with
    | nil =>
      have hle : t.trimmed.length ≤ common := List.drop_eq_nil_iff.1 hB
      by_cases ha : a = '\\'
      · refine ⟨common, hlt, by simp [hB], ?_⟩
        simp [between, hcommon, hA, hB, ha]
      · -- the last name of the second location is the front of a longer one
        have htarget : t.names ≠ [] := by
          intro hnil
          have hhead := (hdriveOnly hnil).1
          rw [hA] at hhead
          exact ha (Option.some.inj hhead)
        obtain ⟨i, hi, hi_lt, hhead⟩ := hlast (hmem htarget)
        refine ⟨i, hi_lt, hhead, ?_⟩
        have hshort : s.trimmed.take common = t.trimmed := by
          rw [hshared, List.take_of_length_le hle]
        rw [hshort] at hi
        simp [between, hcommon, hA, hB, hshort, hi, unitLength_trimmed_ne ht htarget]
    | cons b targetTail =>
      have htarget : t.names ≠ [] := by
        intro hnil
        rw [(hdriveOnly hnil).2] at hB
        cases hB
      obtain ⟨i, hi, hi_lt, hhead⟩ := hlast (hmem htarget)
      refine ⟨i, hi_lt, hhead, ?_⟩
      simp [between, hcommon, hA, hB, hi]

end Between

/-! ### The path between two locations -/

section Relative

variable {s t : DriveLocation} (hs : s.WellFormed) (ht : t.WellFormed) (cwd : List Char)
  (ended ended' : Bool)

include hs ht

/-- In ASCII, the path between two locations compares their trimmed texts in small letters. -/
theorem relative_text : relative cwd (s.text ended) (t.text ended') =
    if s.small.trimmed = t.small.trimmed then []
    else between s.small.trimmed t.small.trimmed (t.text false) (t.text false) := by
  have hunits : ∀ {l : DriveLocation}, l.WellFormed →
      Text.unitLength (l.text false) = Text.unitLength (Text.lower (l.text false)) := by
    intro l hl
    rw [Text.lower_of_isAscii (isAscii_text hl), map_asciiLower_text,
      Text.unitLength_of_isAscii (isAscii_text hl),
      Text.unitLength_of_isAscii (isAscii_text hl.small), ← map_asciiLower_text, List.length_map]
  rw [relative_named hs.isNamed ht.isNamed, lower_trimmed hs, lower_trimmed ht]
  simp only [← hunits hs, ← hunits ht, ne_eq, not_true_eq_false, or_self, if_false]

/-- To a location below another one lead the names that it has more. -/
theorem relative_of_inside (hdrive : s.small.drive = t.small.drive)
    (hin : s.small.names <+: t.small.names) :
    relative cwd (s.text ended) (t.text ended') = Text.join '\\' (t.names.drop s.names.length) := by
  -- the first names of the target are those of the source, in other letters perhaps
  let front : DriveLocation := ⟨t.drive, t.names.take s.names.length⟩
  have hfront : front.small = s.small := by
    have hlength : s.small.names.length = s.names.length := List.length_map _
    have hnames : front.small.names = t.small.names.take s.names.length := List.map_take
    refine DriveLocation.ext hdrive.symm ?_
    rw [hnames, ← hlength, ← List.prefix_iff_eq_take.1 hin]
  have hfrontForm : front.WellFormed :=
    ⟨ht.letter, fun name h => ht.isName name (List.mem_of_mem_take h),
      fun name h => ht.plain name (List.mem_of_mem_take h)⟩
  have hlower : Text.lower front.trimmed = Text.lower s.trimmed := by
    rw [lower_trimmed hfrontForm, lower_trimmed hs, hfront]
  have htarget : front.below (t.names.drop s.names.length) = t :=
    DriveLocation.ext rfl (List.take_append_drop _ _)
  have hbelow := relative_below hs.isNamed (htarget.symm ▸ ht.isNamed) hlower cwd ended ended'
  rwa [htarget] at hbelow

/-- The path to a location elsewhere on the drive starts with `..`. -/
theorem takeWhile_relative_of_elsewhere (hdrive : s.small.drive = t.small.drive)
    (hout : ¬ s.small.names <+: t.small.names) :
    (relative cwd (s.text ended) (t.text ended')).takeWhile (· ≠ '\\') = dotDot := by
  have htext : s.small.trimmed ≠ t.small.trimmed := fun h =>
    hout (names_of_trimmed hs.small.isNamed ht.small.isNamed h.symm ▸ List.prefix_refl _)
  obtain ⟨i, hi, hhead, hbetween⟩ :=
    between_of_elsewhere hs.small ht.small hdrive hout (t.text false) (t.text false)
  rw [relative_text hs ht, if_neg htext, hbetween]
  refine takeWhile_leave hi fun c hc => ?_
  -- the target in its own letters has its separators where it has them in small letters
  have hfront : (t.text false).take t.small.trimmed.length = t.trimmed := by
    rw [← map_asciiLower_trimmed, List.length_map]
    exact (List.prefix_iff_eq_take.1 (trimmed_front t)).symm
  have hsmall : (t.small.trimmed.drop i).head? = some (Text.asciiLower c) := by
    rw [hfront] at hc
    rw [← map_asciiLower_trimmed, ← List.map_drop, List.head?_map, hc]
    rfl
  exact (Text.asciiLower_eq_iff (by decide) c).1 (hhead _ hsmall)

end Relative

end ImageBuild.Path.Windows
