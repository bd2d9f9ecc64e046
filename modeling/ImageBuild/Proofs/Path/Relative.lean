import ImageBuild.Proofs.Path.Trimmed

namespace ImageBuild.Path.Windows

/-!
# Relative paths between drives — what leads from one location to another, in any letters

`between` compares two small-letter texts character by character and then looks for separators;
where a letter changes its length in small letters, `betweenNames` compares name by name.  For
locations on drives both come to the same in three cases:

* `relative_of_drive_ne` — to a location on another drive leads its own text;
* `relative_below` — to a location further down lead the names that are further down;
* `relative_eq_nil_iff` — nothing leads to a location with the same text in small letters, and to no
  other one.
-/

/-! ### Common characters -/

/-- The common characters are at the front of both texts. -/
theorem take_commonChars (a b : List Char) :
    a.take (commonChars a b) = b.take (commonChars a b) := by
  fun_induction commonChars a b with
  | case1 c as bs ih => rw [List.take_succ_cons, List.take_succ_cons, ih]
  | case2 => rfl
  | case3 => rfl

/-- A text has all its characters in common with what goes on behind it. -/
theorem commonChars_append (a b : List Char) : commonChars a (a ++ b) = a.length := by
  induction a with
  | nil => simp [commonChars]
  | cons c a ih => simp [commonChars, ih]

/-- Two texts have a common front in common. -/
theorem le_commonChars_append (front a b : List Char) :
    front.length ≤ commonChars (front ++ a) (front ++ b) := by
  induction front with
  | nil => simp
  | cons c front ih => simpa [commonChars] using ih

/-! ### Last separators -/

/-- A text with separators has a last one, and it is found there. -/
theorem lastSeparator?_of_mem {s : List Char} (hs : '\\' ∈ s) :
    ∃ i, lastSeparator? s = some i ∧ s[i]? = some '\\' := by
  -- read backwards, the text is what follows the last separator, the separator, and the rest
  let after := s.reverse.takeWhile (· ≠ '\\')
  obtain ⟨c, back, hback⟩ : ∃ c back, s.reverse.dropWhile (· ≠ '\\') = c :: back := by
    refine List.exists_cons_of_ne_nil fun hnil => ?_
    rw [List.dropWhile_eq_nil_iff] at hnil
    simpa using hnil '\\' (by simpa using hs)
  have hc : c = '\\' := by
    have hhead := List.head?_dropWhile_not (· ≠ '\\') s.reverse
    rw [hback] at hhead
    simpa using hhead
  have hsplit : s = back.reverse ++ '\\' :: after.reverse := by
    have hparts : s.reverse = after ++ c :: back := by
      rw [← hback, List.takeWhile_append_dropWhile]
    rw [← List.reverse_reverse s, hparts, hc]
    simp
  have hlength : s.length = back.length + 1 + after.length := by
    rw [hsplit]
    simp
    omega
  refine ⟨back.length, ?_, ?_⟩
  · rw [lastSeparator?, if_neg (by change ¬ after.length = s.length; omega)]
    exact congrArg some (by change s.length - after.length - 1 = _; omega)
  · rw [hsplit, List.getElem?_append_right (by simp)]
    simp

/-- The place of a last separator is in the text. -/
theorem lastSeparator?_lt {s : List Char} {i : Nat} (h : lastSeparator? s = some i) :
    i < s.length := by
  have hle : (s.reverse.takeWhile (· ≠ '\\')).length ≤ s.reverse.length :=
    (List.takeWhile_prefix _).length_le
  rw [List.length_reverse] at hle
  unfold lastSeparator? at h
  dsimp only at h
  split at h
  · cases h
  · cases h
    omega

/-! ### Going up -/

/-- A path that leaves goes up at least once; what follows it is the rest of the target. -/
theorem exists_leave_eq {source : List Char} {i : Nat} (hi : i < source.length)
    (target written : List Char) :
    ∃ ending, (ending = [] ∨ ending.head? = some '\\') ∧ leave source target written i =
      dotDot ++ (ending ++ (written.take target.length).drop i) := by
  obtain ⟨piece, pieces, hpieces⟩ :=
    Text.exists_split_eq_cons (· == '\\') (source.drop (i + 1))
  obtain ⟨ending, hjoin, hending⟩ :=
    Text.join_cons_eq_append '\\' dotDot (pieces.map fun _ => dotDot)
  refine ⟨ending, hending, ?_⟩
  rw [leave, if_neg (by omega), hpieces, List.map_cons, hjoin, List.append_assoc]

/-- A path that leaves is some. -/
theorem leave_ne_nil {source target written : List Char} {i : Nat} (hi : i < source.length) :
    leave source target written i ≠ [] := by
  obtain ⟨ending, -, hleave⟩ := exists_leave_eq hi target written
  simp [hleave, dotDot]

/-- A path that leaves from the place of a separator, or where the target ends, starts with `..`. -/
theorem takeWhile_leave {source target written : List Char} {i : Nat} (hi : i < source.length)
    (hrest : ∀ c, ((written.take target.length).drop i).head? = some c → c = '\\') :
    (leave source target written i).takeWhile (· ≠ '\\') = dotDot := by
  obtain ⟨ending, hending, hleave⟩ := exists_leave_eq hi target written
  generalize (written.take target.length).drop i = rest at hleave hrest
  have hstop : (ending ++ rest).takeWhile (· ≠ '\\') = [] := by
    rcases hending with rfl | hhead
    · cases rest with
      | nil => rfl
      | cons c rest => simp [hrest c rfl]
    · cases ending with
      | nil => cases hhead
      | cons c ending => simp_all
  rw [hleave, List.takeWhile_append_of_pos (by simp [dotDot]), hstop, List.append_nil]

/-! ### Between texts -/

/-- To a text that goes on behind the first one with a separator leads what stands behind that. -/
theorem between_append {a front : List Char} (hfront : front.length = a.length)
    (x rest whole : List Char) :
    between a (a ++ '\\' :: x) (front ++ '\\' :: rest) whole = rest := by
  have hdrop : (front ++ '\\' :: rest).drop (a.length + 1) = rest := by
    rw [← hfront, List.drop_append]
    simp
  simp [between, commonChars_append, hdrop]

/-- To a text with another first character leads the whole target. -/
theorem between_cons_of_ne {c d : Char} (h : c ≠ d) (a b written whole : List Char) :
    between (c :: a) (d :: b) written whole = whole := by
  simp [between, commonChars, h, lastSeparator?]

/-- A text as those of locations are in small letters: there are two characters for the drive, a
    separator or nothing follows them, and no separator stands at the end. -/
structure HasDrive (p : List Char) : Prop where
  length : 2 ≤ p.length
  third : ∀ c, p[2]? = some c → c = '\\'
  last : p.getLast? ≠ some '\\'

/-- The trimmed text of a location has a drive in small letters. -/
theorem hasDrive_lower_trimmed {l : DriveLocation} (hl : l.IsNamed) :
    HasDrive (Text.lower l.trimmed) := by
  obtain ⟨rest, htext, hrest⟩ := exists_lower_trimmed_eq hl
  refine ⟨by simp [htext], fun c hc => ?_, getLast?_lower_trimmed hl⟩
  have hthird : rest.head? = some c := by simpa [htext, List.head?_eq_getElem?] using hc
  rcases hrest with rfl | hhead
  · cases hthird
  · exact Option.some.inj (hthird.symm.trans hhead)

/-- What goes on behind the drive alone, goes on with a separator. -/
theorem HasDrive.backslash_of_append {a rest : List Char} {c : Char} (ha : HasDrive (a ++ c :: rest))
    (hunits : Text.unitLength a = 2) (hlength : 2 ≤ a.length) : c = '\\' := by
  have hle := Text.length_le_unitLength a
  have htwo : a.length = 2 := by omega
  refine ha.third c ?_
  rw [List.getElem?_append_right (by omega), htwo]
  rfl

/-- Between texts with a drive there is always something to write. -/
theorem between_ne_nil {a b written whole : List Char} (ha : HasDrive a) (hb : HasDrive b)
    (hwritten : b.length ≤ written.length) (hwhole : whole ≠ []) :
    between a b written whole ≠ [] := by
  have hshared := take_commonChars a b
  have hlength := ha.length
  have hlast : (lastSeparator? (a.take (commonChars a b))).getD 0 < a.length := by
    cases h : lastSeparator? (a.take (commonChars a b)) with
    | none =>
      rw [Option.getD_none]
      omega
    | some i =>
      have hlt := lastSeparator?_lt h
      rw [List.length_take] at hlt
      rw [Option.getD_some]
      omega
  unfold between
  generalize commonChars a b = common at hshared hlast
  dsimp only
  split
  · -- both go on differently
    split
    · exact hwhole
    · rename_i i hi
      rw [hi] at hlast
      exact leave_ne_nil hlast
  · -- the target goes on behind a separator, which is not its last character
    rename_i rest hA hB
    intro hnil
    rw [List.drop_eq_nil_iff] at hnil
    have hlt : common < b.length := List.length_lt_of_drop_ne_nil (by simp [hB])
    have hend : b.length = common + 1 := by omega
    refine hb.last ?_
    rw [List.getLast?_eq_getElem?, hend, Nat.add_sub_cancel, ← List.head?_drop, hB]
    rfl
  · -- the target goes on inside of a name
    rename_i hA hB
    split
    · have hlt : common < b.length := List.length_lt_of_drop_ne_nil (by simp [hB])
      rw [ne_eq, List.drop_eq_nil_iff]
      omega
    · exact leave_ne_nil hlast
  · -- the source goes on behind a separator
    rename_i hA hB
    exact leave_ne_nil (List.length_lt_of_drop_ne_nil (by simp [hA]))
  · -- the source goes on inside of a name, or so it seems: behind a drive alone comes a separator
    rename_i c rest hc hA hB
    refine leave_ne_nil ?_
    split
    · rename_i hunits
      have htarget : a.take common = b := by
        rw [hshared, List.take_of_length_le (List.drop_eq_nil_iff.1 hB)]
      have hsource : a = b ++ c :: rest := by
        rw [← htarget, ← hA, List.take_append_drop]
      rw [htarget, beq_iff_eq] at hunits
      rw [hsource] at ha
      exact absurd (ha.backslash_of_append hunits hb.length) (by simpa using hc)
    · exact hlast
  · -- both texts are the same
    exact leave_ne_nil hlast

/-! ### Between names -/

/-- Lists of which all is common are equal. -/
theorem eq_of_length_le_commonLength {a b : List (List Char)} (ha : a.length ≤ commonLength a b)
    (hb : b.length ≤ commonLength a b) : a = b := by
  have hle := commonLength_le a b
  have hprefix := (commonLength_eq_length_iff a b).1 (by omega)
  exact hprefix.eq_of_length_le (by omega)

section Relative

variable {s t : DriveLocation} (hs : s.IsNamed) (ht : t.IsNamed)

include hs in
/-- Cut at its separators, the text of a location is the drive and the names, and an empty piece
    behind a drive alone. -/
theorem cut_text :
    (if (Text.split (· == '\\') (s.text false)).getLast? = some [] then
      (Text.split (· == '\\') (s.text false)).dropLast
      else Text.split (· == '\\') (s.text false)) = [s.drive, ':'] :: s.names := by
  by_cases hnames : s.names = []
  · rw [text_eq_trimmed_append hnames, Text.split_append_cons rfl, split_trimmed hs, hnames]
    rfl
  · rw [text_eq_trimmed hnames, if_neg, split_trimmed hs]
    exact fun hlast => ne_nil_of_mem_split_trimmed hs (List.mem_of_getLast? hlast) rfl

include hs ht

/-- Name by name, the drives and the names of two locations are compared. -/
theorem betweenNames_text : betweenNames (s.text false) (t.text false) =
    let sources := [s.drive, ':'] :: s.names
    let targets := [t.drive, ':'] :: t.names
    let common := commonLength (sources.map Text.lower) (targets.map Text.lower)
    if common = 0 then t.text false
    else Text.join '\\' (List.replicate (sources.length - common) dotDot ++ targets.drop common) := by
  rw [betweenNames]
  simp only [cut_text hs, cut_text ht]

/-- The path between two locations compares their texts in small letters. -/
theorem relative_named (cwd : List Char) (ended ended' : Bool) :
    relative cwd (s.text ended) (t.text ended') =
      if Text.lower s.trimmed = Text.lower t.trimmed then []
      else if Text.unitLength (s.text false) ≠ Text.unitLength (Text.lower (s.text false)) ∨
          Text.unitLength (t.text false) ≠ Text.unitLength (Text.lower (t.text false)) then
        betweenNames (s.text false) (t.text false)
      else
        between (Text.lower s.trimmed) (Text.lower t.trimmed) (t.text false) (t.text false) := by
  have hwritten : (t.text false).dropWhile (· == '\\') = t.text false := by
    obtain ⟨rest, hrest⟩ : ∃ rest, t.text false = t.drive :: rest := ⟨_, rfl⟩
    rw [hrest, List.dropWhile_cons_of_neg (by simpa using drive_ne_backslash ht)]
  rw [relative, resolve_text hs, resolve_text ht]
  simp only [lower_text_eq_iff hs ht, trimSeparators_lower_text hs, trimSeparators_lower_text ht,
    hwritten]

/-- To a location on another drive leads its own text. -/
theorem relative_of_drive_ne (hdrive : Text.asciiLower s.drive ≠ Text.asciiLower t.drive)
    (cwd : List Char) (ended ended' : Bool) :
    relative cwd (s.text ended) (t.text ended') = t.text false := by
  obtain ⟨source, hsource, -⟩ := exists_lower_trimmed_eq hs
  obtain ⟨target, htarget, -⟩ := exists_lower_trimmed_eq ht
  have hne : Text.lower s.trimmed ≠ Text.lower t.trimmed := by
    rw [hsource, htarget]
    exact fun h => hdrive (List.cons.inj h).1
  have hfirst : Text.lower [s.drive, ':'] ≠ Text.lower [t.drive, ':'] := by
    rw [lower_drive hs, lower_drive ht]
    exact fun h => hdrive (List.cons.inj h).1
  rw [relative_named hs ht, if_neg hne]
  split
  · rw [betweenNames_text hs ht]
    simp [commonLength, hfirst]
  · rw [hsource, htarget]
    exact between_cons_of_ne hdrive _ _ _ _

section Below

variable {front : DriveLocation} {more : List (List Char)}

omit ht in
/-- Name by name, to a location further down lead the names that are further down. -/
theorem betweenNames_below (ht : (front.below more).IsNamed)
    (hfront : Text.lower front.trimmed = Text.lower s.trimmed) :
    betweenNames (s.text false) ((front.below more).text false) = Text.join '\\' more := by
  have hnamed : front.IsNamed :=
    ⟨ht.letter, fun name h => ht.isName name (List.mem_append_left _ h)⟩
  -- all of the source is common
  have hpieces := congrArg (Text.split (· == '\\')) hfront
  rw [Text.split_lower, Text.split_lower, split_trimmed hnamed, split_trimmed hs] at hpieces
  have htargets : [(front.below more).drive, ':'] :: (front.below more).names =
      ([front.drive, ':'] :: front.names) ++ more := rfl
  have hlength : ([front.drive, ':'] :: front.names).length =
      ([s.drive, ':'] :: s.names).length := by
    simpa using congrArg List.length hpieces
  have hcommon : commonLength (([s.drive, ':'] :: s.names).map Text.lower)
      ((([front.drive, ':'] :: front.names) ++ more).map Text.lower) =
        ([s.drive, ':'] :: s.names).length := by
    rw [List.map_append, hpieces, (commonLength_eq_length_iff _ _).2 (List.prefix_append _ _),
      List.length_map]
  rw [betweenNames_text hs ht]
  dsimp only
  rw [htargets, hcommon, if_neg (by simp), Nat.sub_self, ← hlength, List.drop_left]
  rfl

omit ht in
/-- To a location further down lead the names that are further down, also when the way to them is
    spelled in other letters. -/
theorem relative_below (ht : (front.below more).IsNamed)
    (hfront : Text.lower front.trimmed = Text.lower s.trimmed) (cwd : List Char)
    (ended ended' : Bool) :
    relative cwd (s.text ended) ((front.below more).text ended') = Text.join '\\' more := by
  rw [relative_named hs ht]
  by_cases hmore : more = []
  · subst hmore
    have hsame : front.below [] = front := by simp [DriveLocation.below]
    rw [hsame, if_pos hfront.symm]
    rfl
  have hsmall : Text.lower (front.below more).trimmed =
      Text.lower s.trimmed ++ '\\' :: Text.lower (Text.join '\\' more) := by
    rw [trimmed_below _ hmore, Text.lower_append_backslash, hfront]
  have htext : (front.below more).text false = front.trimmed ++ '\\' :: Text.join '\\' more := by
    rw [text_eq_trimmed (by simp [DriveLocation.below, hmore]), trimmed_below _ hmore]
  rw [if_neg (by simp [hsmall])]
  split
  · exact betweenNames_below hs ht hfront
  · -- as no letter changes its length, the names begin where they do in small letters
    rename_i hunits
    rw [not_or, not_ne_iff, not_ne_iff, htext] at hunits
    have hsize : front.trimmed.length = (Text.lower s.trimmed).length := by
      rw [← hfront, Text.length_lower_of_units hunits.2]
    rw [hsmall, htext, between_append hsize]

end Below

/-- Name by name, there is something to write between locations whose small letters differ. -/
theorem betweenNames_text_ne_nil (hne : Text.lower s.trimmed ≠ Text.lower t.trimmed) :
    betweenNames (s.text false) (t.text false) ≠ [] := by
  rw [betweenNames_text hs ht]
  dsimp only
  split
  · simp [DriveLocation.text, textOf]
  · refine Text.join_ne_nil ?_ ?_
    · intro hnil
      rw [List.append_eq_nil_iff, List.replicate_eq_nil_iff, List.drop_eq_nil_iff] at hnil
      -- neither of the two has a name that is not common
      refine hne ?_
      rw [lower_trimmed_eq_join hs, lower_trimmed_eq_join ht]
      refine congrArg (Text.join '\\') (eq_of_length_le_commonLength ?_ ?_)
      · rw [List.length_map]
        omega
      · rw [List.length_map]
        exact hnil.2
    · intro piece hpiece
      rcases List.mem_append.1 hpiece with hup | hdown
      · rw [List.eq_of_mem_replicate hup]
        simp [dotDot]
      · refine ne_nil_of_mem_split_trimmed ht ?_
        rw [split_trimmed ht]
        exact List.mem_of_mem_drop hdown

/-- Nothing leads to a location with the same text in small letters, and to no other one. -/
theorem relative_eq_nil_iff (cwd : List Char) (ended ended' : Bool) :
    relative cwd (s.text ended) (t.text ended') = [] ↔
      Text.lower s.trimmed = Text.lower t.trimmed := by
  rw [relative_named hs ht]
  by_cases hsame : Text.lower s.trimmed = Text.lower t.trimmed
  · simp [hsame]
  · simp only [hsame, if_false, iff_false]
    split
    · exact betweenNames_text_ne_nil hs ht hsame
    · rename_i hunits
      rw [not_or, not_ne_iff, not_ne_iff] at hunits
      have hwritten : (Text.lower t.trimmed).length ≤ (t.text false).length := by
        rw [← (Text.units_lowerFrom [] (t.text false)).2 hunits.2.symm]
        exact (lower_trimmed_front t).length_le
      exact between_ne_nil (hasDrive_lower_trimmed hs) (hasDrive_lower_trimmed ht) hwritten
        (by simp [DriveLocation.text, textOf])

end Relative

end ImageBuild.Path.Windows
