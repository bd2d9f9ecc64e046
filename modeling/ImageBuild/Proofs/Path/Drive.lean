import ImageBuild.Proofs.Path.Anchored

namespace ImageBuild.Path.Windows

/-!
# Drives — where a Windows path leads, followed piece by piece from the root of a drive

A location on a drive is the letter of the drive and the names that lead down from its root.
`DriveLocation.follow` says where a path leads, with both separators read, and `DriveLocation.text`
writes a location down:

* `normalize_of_atDrive`, `join_text` — normalizing a path at a drive and joining a path to the text
  of a location give the text of the location that they lead to, unless a reserved name keeps the
  joined text from being normalized (`join_text_of_ne_nil`);
* `resolve_of_atDrive` — the full path of a path at a drive is the text of its location, less a last
  separator.
-/

/-- A location on a drive. -/
@[ext]
structure DriveLocation where
  drive : Char
  names : List (List Char)
deriving DecidableEq

/-- ASCII characters without a colon. -/
def IsPlain (s : List Char) : Prop := ∀ c ∈ s, c.toNat < 0x80 ∧ c ≠ ':'

instance (s : List Char) : Decidable (IsPlain s) :=
  List.decidableBAll (fun c : Char => c.toNat < 0x80 ∧ c ≠ ':') s

/-- A path that names a drive and starts at its root. -/
inductive AtDrive : Char → List Char → Prop
  | intro {letter separator : Char} (hletter : isDriveLetter letter = true)
    (hseparator : isSeparator separator = true) (tail : List Char) :
    AtDrive letter (letter :: ':' :: separator :: tail)

/-- A path that names a drive and does not start at its root. -/
inductive BehindDrive : Char → List Char → Prop
  | intro {letter : Char} (hletter : isDriveLetter letter = true) {tail : List Char}
    (htail : ∀ c, tail.head? = some c → isSeparator c = false) :
    BehindDrive letter (letter :: ':' :: tail)

/-- A path that names a drive and starts at its root, with no other colon and nothing but ASCII. -/
inductive OnDrive : List Char → Prop
  | intro {letter separator : Char} {tail : List Char} (hletter : isDriveLetter letter = true)
    (hseparator : isSeparator separator = true) (htail : IsPlain tail) :
    OnDrive (letter :: ':' :: separator :: tail)

/-- A path that names no drive and does not start with a separator, in ASCII. -/
structure IsRelative (p : List Char) : Prop where
  plain : IsPlain p
  head : ∀ c, p.head? = some c → isSeparator c = false

namespace DriveLocation

/-- The location that a path without a drive leads to. -/
def enterAll (l : DriveLocation) (p : List Char) : DriveLocation :=
  { l with names := (Text.split isSeparator p).foldl enter l.names }

/-- The location that a path leads to when it is used at `start`.  A drive is entered at its root.
    -/
def follow (start : DriveLocation) : List Char → DriveLocation
  | letter :: ':' :: rest => enterAll ⟨letter, []⟩ rest
  | p => start.enterAll p

/-- The text of a location, with or without a last separator. -/
def text (l : DriveLocation) (ended : Bool) : List Char := textOf [l.drive, ':'] l.names ended

/-- A location with a letter for its drive and names. -/
structure IsNamed (l : DriveLocation) : Prop where
  letter : isDriveLetter l.drive = true
  isName : ∀ name ∈ l.names, IsName isSeparator name

/-- A location with a letter for its drive and plain names. -/
structure WellFormed (l : DriveLocation) : Prop where
  letter : isDriveLetter l.drive = true
  isName : ∀ name ∈ l.names, IsName isSeparator name
  plain : ∀ name ∈ l.names, IsPlain name

end DriveLocation

/-! ### Where paths lead -/

/-- A well-formed location has names. -/
theorem DriveLocation.WellFormed.isNamed {l : DriveLocation} (hl : l.WellFormed) : l.IsNamed :=
  ⟨hl.letter, hl.isName⟩

/-- A path on a drive is at the root of that drive. -/
theorem OnDrive.atDrive {p : List Char} (h : OnDrive p) : ∃ letter, AtDrive letter p := by
  cases h with
  | intro hletter hseparator htail => exact ⟨_, .intro hletter hseparator _⟩

/-- A relative path is followed from where it is used. -/
theorem IsRelative.follow_eq {p : List Char} (h : IsRelative p) (start : DriveLocation) :
    start.follow p = start.enterAll p := by
  unfold DriveLocation.follow
  split
  · exact absurd rfl (h.plain ':' (by simp)).2
  · rfl

/-- A path that names a drive leads to the names of its tail on it. -/
theorem DriveLocation.follow_drive (start : DriveLocation) (letter : Char) (tail : List Char) :
    start.follow (letter :: ':' :: tail) = ⟨letter, tailNames tail⟩ := by
  rw [tailNames, collapse_true]
  rfl

/-- Nothing leads nowhere else. -/
theorem DriveLocation.enterAll_nil (l : DriveLocation) : l.enterAll [] = l := by
  rw [DriveLocation.enterAll, Text.split, List.foldl_cons, enter_nil]
  rfl

/-- Every name that is reached was there before or is one of the pieces. -/
theorem mem_foldl_enter {place pieces : List (List Char)} {name : List Char}
    (h : name ∈ pieces.foldl enter place) : name ∈ place ∨ name ∈ pieces := by
  induction pieces generalizing place with
  | nil => exact .inl h
  | cons piece pieces ih =>
    rcases ih h with hplace | hpiece
    · have hmem : name ∈ place ∨ name = piece := by
        unfold enter at hplace
        split at hplace
        · exact .inl hplace
        · split at hplace
          · exact .inl ((List.dropLast_sublist place).subset hplace)
          · simpa using hplace
      exact hmem.imp_right fun heq => by simp [heq]
    · exact .inr (List.mem_cons_of_mem _ hpiece)

/-- Following a path leads to names. -/
theorem DriveLocation.IsNamed.enterAll {l : DriveLocation} (hl : l.IsNamed) (p : List Char) :
    (l.enterAll p).IsNamed :=
  ⟨hl.letter, isName_of_mem_foldl hl.isName fun _ h => Text.free_of_mem_split h⟩

/-- A path at a drive leads to a location on it. -/
theorem AtDrive.isNamed {letter : Char} {p : List Char} (h : AtDrive letter p)
    (start : DriveLocation) : (start.follow p).IsNamed ∧ (start.follow p).drive = letter := by
  cases h with
  | intro hletter hseparator tail =>
    have hroot : DriveLocation.IsNamed ⟨letter, []⟩ := ⟨hletter, by simp⟩
    exact ⟨hroot.enterAll _, rfl⟩

/-- Following a plain path leads to plain names. -/
theorem DriveLocation.WellFormed.enterAll {l : DriveLocation} (hl : l.WellFormed) {p : List Char}
    (hp : IsPlain p) : (l.enterAll p).WellFormed := by
  refine ⟨hl.letter, (hl.isNamed.enterAll p).isName, ?_⟩
  intro name hname c hc
  rcases mem_foldl_enter hname with hold | hpiece
  · exact hl.plain name hold c hc
  · exact hp c (Text.mem_of_mem_split hpiece hc)

/-- Separators are plain characters. -/
theorem isPlain_cons_separator {separator : Char} (hseparator : isSeparator separator = true)
    {tail : List Char} (htail : IsPlain tail) : IsPlain (separator :: tail) := by
  intro c hc
  rcases List.mem_cons.1 hc with rfl | hc
  · rcases isSeparator_iff.1 hseparator with rfl | rfl <;> decide
  · exact htail c hc

/-- A path on a drive leads to a well-formed location. -/
theorem OnDrive.wellFormed {p : List Char} (h : OnDrive p) (start : DriveLocation) :
    (start.follow p).WellFormed := by
  cases h with
  | @intro letter separator tail hletter hseparator htail =>
    have hroot : DriveLocation.WellFormed ⟨letter, []⟩ := ⟨hletter, by simp, by simp⟩
    exact hroot.enterAll (isPlain_cons_separator hseparator htail)

/-- A path at a drive is absolute. -/
theorem AtDrive.isAbsolute {letter : Char} {p : List Char} (h : AtDrive letter p) :
    isAbsolute p = true := by
  cases h with
  | intro hletter hseparator tail => simp [Windows.isAbsolute, hletter, hseparator]

/-- A path that names a drive names it by a letter. -/
theorem BehindDrive.isDriveLetter {letter : Char} {p : List Char} (h : BehindDrive letter p) :
    isDriveLetter letter = true := by
  cases h with
  | intro hletter htail => exact hletter

/-- A path that names a drive and does not start at its root is not absolute. -/
theorem BehindDrive.isAbsolute {letter : Char} {p : List Char} (h : BehindDrive letter p) :
    isAbsolute p = false := by
  cases h with
  | intro hletter htail =>
    have hseparator := isSeparator_of_isDriveLetter hletter
    unfold Windows.isAbsolute
    split
    · rename_i heq
      cases heq
      simp [hseparator, htail _ rfl]
    · rename_i heq
      cases heq
      exact hseparator
    · rfl

/-- A path on a drive is absolute. -/
theorem OnDrive.isAbsolute {p : List Char} (h : OnDrive p) : isAbsolute p = true := by
  obtain ⟨letter, hdrive⟩ := h.atDrive
  exact hdrive.isAbsolute

/-- A relative path is not absolute. -/
theorem IsRelative.isAbsolute {p : List Char} (h : IsRelative p) : isAbsolute p = false := by
  unfold Windows.isAbsolute
  split
  · exact absurd rfl (h.plain ':' (by simp)).2
  · exact h.head _ rfl
  · rfl

/-! ### Texts of locations -/

/-- A path at a drive is anchored at it, and its tail leads to the names of its location. -/
theorem AtDrive.anchor_eq {letter : Char} {p : List Char} (h : AtDrive letter p)
    (start : DriveLocation) :
    ∃ tail, anchor p = ⟨[letter, ':'], true, tail⟩ ∧ start.follow p = ⟨letter, tailNames tail⟩ := by
  cases h with
  | @intro separator hletter hseparator tail =>
    refine ⟨tail, by simp [anchor, hletter, hseparator, isSeparator_of_isDriveLetter hletter], ?_⟩
    rw [DriveLocation.follow_drive, tailNames_cons hseparator]

/-- Normalizing a path at a drive gives the text of the location that it leads to, with a last
    separator where the path has one. -/
theorem normalize_of_atDrive {letter : Char} {p : List Char} (h : AtDrive letter p)
    (start : DriveLocation) :
    normalize p = (start.follow p).text (endsInSeparator p) := by
  obtain ⟨tail, hanchor, hfollow⟩ := h.anchor_eq start
  have hspace : ¬ IsNameSpace (anchor p).device := by simp [hanchor, IsNameSpace]
  have hrooted := rooted_anchor h.isAbsolute
  rw [normalize_of_rooted hrooted, cut_eq_anchor hrooted hspace, hanchor, hfollow]
  rfl

/-- The full path of a path at a drive is the text of its location without a last separator. -/
theorem resolve_of_atDrive {letter : Char} {p : List Char} (h : AtDrive letter p)
    (start : DriveLocation) (cwd : List Char) : resolve cwd p = (start.follow p).text false := by
  obtain ⟨tail, hanchor, hfollow⟩ := h.anchor_eq start
  have htext : tailText true tail = Text.join '\\' (tailNames tail) := rfl
  rw [resolve, hanchor, hfollow]
  simp [htext, DriveLocation.text, textOf]

/-- A path at a drive stays there with backslashes alone, and leads to the same location. -/
theorem AtDrive.toBackslashes {letter : Char} {p : List Char} (h : AtDrive letter p)
    (start : DriveLocation) :
    AtDrive letter (Windows.toBackslashes p) ∧
      start.follow (Windows.toBackslashes p) = start.follow p := by
  cases h with
  | @intro separator hletter hseparator tail =>
    have hkept : letter ≠ '/' := ne_of_isDriveLetter hletter (by decide)
    have htext : Windows.toBackslashes (letter :: ':' :: separator :: tail) =
        letter :: ':' :: '\\' :: Windows.toBackslashes tail := by
      rcases isSeparator_iff.1 hseparator with rfl | rfl <;> simp [Windows.toBackslashes, hkept]
    have hpieces : Text.split isSeparator (Windows.toBackslashes tail) =
        Text.split isSeparator tail := split_swap (by decide) (by decide) tail
    refine ⟨htext ▸ .intro hletter rfl _, ?_⟩
    rw [htext, DriveLocation.follow_drive, DriveLocation.follow_drive, tailNames_cons rfl,
      tailNames_cons hseparator, tailNames, tailNames, hpieces]

/-- A last separator is the one of what stands at the end. -/
theorem endsInSeparator_append {p : List Char} (hp : p ≠ []) (front : List Char) :
    endsInSeparator (front ++ p) = endsInSeparator p := by
  obtain ⟨c, hc⟩ : ∃ c, p.getLast? = some c := by
    cases hlast : p.getLast? with
    | none => exact absurd (List.getLast?_eq_none_iff.1 hlast) hp
    | some c => exact ⟨c, rfl⟩
  rw [endsInSeparator, List.getLast?_append, hc]
  simp [endsInSeparator, hc]

section Text

variable {l : DriveLocation} (hl : l.IsNamed) (ended : Bool)

include hl

/-- The text of a location is at its drive and leads to the location. -/
theorem atDrive_text (start : DriveLocation) :
    AtDrive l.drive (l.text ended) ∧ start.follow (l.text ended) = l := by
  refine ⟨.intro hl.letter rfl _, ?_⟩
  show start.follow (l.drive :: ':' :: '\\' :: _) = l
  rw [DriveLocation.follow_drive, tailNames_cons rfl, tailNames_join hl.isName ended]

/-- A path put behind the text of a location is at its drive and leads where the path leads from
    there. -/
theorem atDrive_text_append (start : DriveLocation) (p : List Char) :
    AtDrive l.drive (l.text ended ++ '\\' :: p) ∧
      start.follow (l.text ended ++ '\\' :: p) = l.enterAll p := by
  refine ⟨.intro hl.letter rfl _, ?_⟩
  -- behind the drive stand the names of the location, and behind these the path
  have hnames := tailNames_join hl.isName ended
  rw [tailNames, collapse_true] at hnames
  show start.follow (l.drive :: ':' :: '\\' :: (_ ++ '\\' :: p)) = _
  rw [DriveLocation.follow_drive, tailNames_cons rfl, tailNames, collapse_true,
    Text.split_append_cons rfl, List.foldl_append, hnames]
  rfl

/-- Normalizing the text of a location changes nothing. -/
theorem normalize_text : normalize (l.text ended) = l.text ended := by
  refine normalize_textOf (.drive hl.letter) hl.isName ended ?_
  rintro (h | h) <;> simp at h

/-- The full path of the text of a location is its text without a last separator. -/
theorem resolve_text (cwd : List Char) : resolve cwd (l.text ended) = l.text false := by
  obtain ⟨hdrive, hfollow⟩ := atDrive_text hl ended l
  rw [resolve_of_atDrive hdrive l, hfollow]

/-- There are no slashes in the text of a location. -/
theorem toBackslashes_text : toBackslashes (l.text ended) = l.text ended := by
  have hslash : '/' ∉ l.text ended := by
    intro hmem
    rcases List.mem_append.1 hmem with hmem | hmem
    · simp only [List.mem_cons, List.not_mem_nil, or_false] at hmem
      rcases hmem with hdrive | hcolon
      · exact absurd (hdrive ▸ hl.letter) (by decide)
      · exact absurd hcolon (by decide)
    · rcases List.mem_cons.1 hmem with heq | hmem
      · cases heq
      rcases eq_or_mem_of_mem_join hmem with heq | ⟨name, hname, hc⟩
      · cases heq
      · exact absurd ((hl.isName name hname).free '/' hc) (by decide)
  have hkept : ∀ c ∈ l.text ended, (if c = '/' then '\\' else c) = c := by
    intro c hc
    rw [if_neg]
    rintro rfl
    exact hslash hc
  rw [toBackslashes, List.map_congr_left hkept, List.map_id']

/-- Nothing but a separator comes between the text of a location and what is joined to it. -/
theorem joined_text (p : List Char) :
    joined [l.text ended, p] = if p = [] then l.text ended else l.text ended ++ '\\' :: p := by
  have hletter : isSeparator l.drive = false := isSeparator_of_isDriveLetter hl.letter
  obtain ⟨tail, htext⟩ : ∃ tail, l.text ended = l.drive :: ':' :: tail := ⟨_, rfl⟩
  rw [htext]
  by_cases hp : p = [] <;> simp [joined, hp, startsWithServer, hletter, Text.join]

/-- Joining nothing to the text of a location changes nothing. -/
theorem join_text_nil : join [l.text ended, []] = l.text ended := by
  rw [join, joined_text hl, if_pos rfl, toBackslashes_text hl, normalize_text hl, ite_self]

/-- Joining a path to the text of a location gives the text of the location that it leads to from
    there, with a last separator where the path has one; but with a reserved name, what is joined
    stays as it is. -/
theorem join_text_of_ne_nil {p : List Char} (hp : p ≠ []) :
    join [l.text ended, p] =
      if holdsReserved (l.text ended ++ '\\' :: p) then toBackslashes (l.text ended ++ '\\' :: p)
      else (l.enterAll p).text (endsInSeparator p) := by
  obtain ⟨hdrive, hfollow⟩ := atDrive_text_append hl ended l p
  have hended : endsInSeparator (l.text ended ++ '\\' :: p) = endsInSeparator p := by
    rw [← List.singleton_append, ← List.append_assoc, endsInSeparator_append hp]
  rw [join, joined_text hl, if_neg hp, normalize_of_atDrive hdrive l, hfollow, hended]

/-- Without a reserved name, joining a path to the text of a location gives the text of the location
    that it leads to from there; joining nothing changes nothing. -/
theorem join_text {p : List Char} (hplain : holdsReserved (l.text ended ++ '\\' :: p) = false) :
    join [l.text ended, p] =
      (l.enterAll p).text (if p = [] then ended else endsInSeparator p) := by
  by_cases hp : p = []
  · rw [if_pos hp, hp, join_text_nil hl, DriveLocation.enterAll_nil]
  · rw [if_neg hp, join_text_of_ne_nil hl ended hp, hplain, if_neg Bool.false_ne_true]

end Text

/-- There is no reserved name in front of a colon where the only one is that of the drive. -/
theorem holdsReserved_of_colon_notMem {letter : Char} (hletter : isDriveLetter letter = true)
    {rest : List Char} (hrest : ':' ∉ rest) : holdsReserved (letter :: ':' :: '\\' :: rest) = false := by
  have hne : (letter == '\\') = false := by
    rw [beq_eq_false_iff_ne]
    exact ne_of_isDriveLetter hletter (by decide)
  have hsplit : Text.split (· == '\\') (letter :: ':' :: '\\' :: rest) =
      [letter, ':'] :: Text.split (· == '\\') rest := by
    simp [Text.split, hne]
  rw [holdsReserved, hsplit, List.any_eq_false]
  intro piece hpiece
  have hnone : reservedDevice? piece = none := by
    rcases List.mem_cons.1 hpiece with rfl | hpiece
    · exact reservedDevice?_drive letter
    · exact reservedDevice?_of_colon_notMem fun hcolon => hrest (Text.mem_of_mem_split hpiece hcolon)
  simp [hnone]

/-- Behind the text of a location with plain names, a path without a colon brings no reserved name in
    front of one. -/
theorem DriveLocation.WellFormed.holdsReserved_append {l : DriveLocation} (hl : l.WellFormed)
    (ended : Bool) {p : List Char} (hp : ':' ∉ p) :
    holdsReserved (l.text ended ++ '\\' :: p) = false := by
  refine holdsReserved_of_colon_notMem hl.letter fun hmem => ?_
  rcases List.mem_append.1 hmem with hmem | hmem
  · rcases eq_or_mem_of_mem_join hmem with heq | ⟨name, hname, hc⟩
    · cases heq
    · exact (hl.plain name hname ':' hc).2 rfl
  · rcases List.mem_cons.1 hmem with heq | hmem
    · cases heq
    · exact hp hmem

end ImageBuild.Path.Windows
