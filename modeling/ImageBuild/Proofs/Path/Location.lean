import ImageBuild.Path.Posix
import ImageBuild.Proofs.Text.Split

namespace ImageBuild.Path

/-!
# Locations — where a path leads, followed piece by piece from the root

A location is the list of names that lead to it from the root.  `enter` says what one piece of a
path does to a location and `Posix.follow` what a whole path does; both go forward, without the
stack that `collapse` keeps.  `Posix.Spells` says which texts name a location:

* `Posix.spells_normalize`, `Posix.spells_join` — normalizing and joining name the location that
  their arguments lead to;
* `Posix.relative_of_spells` — the path between two locations depends on the locations alone;
* `between_of_inside`, `between_of_outside` — it has the remaining names when the first location is
  at the front of the second, and otherwise starts with `..`.
-/

/-- The location that one more piece of a path leads to; above the root there is only the root. -/
def enter (place : List (List Char)) (piece : List Char) : List (List Char) :=
  if piece = [] ∨ piece = dot then place
  else if piece = dotDot then place.dropLast
  else place ++ [piece]

/-- A name: not empty, not one of the two special pieces, and free of separators. -/
structure IsName (isSeparator : Char → Bool) (name : List Char) : Prop where
  ne_nil : name ≠ []
  ne_dot : name ≠ dot
  ne_dotDot : name ≠ dotDot
  free : ∀ c ∈ name, isSeparator c = false

/-! ### Collapsing below a root -/

/-- Below a root, no `..` is kept. -/
theorem dotDot_notMem_push {kept : List (List Char)} (hkept : dotDot ∉ kept) (piece : List Char) :
    dotDot ∉ push true kept piece := by
  unfold push
  split
  · exact hkept
  · split
    · cases kept with
      | nil => simp
      | cons name rest => rw [List.mem_cons, not_or] at hkept; simp [Ne.symm hkept.1, hkept.2]
    · rename_i hpiece
      rw [List.mem_cons, not_or]
      exact ⟨Ne.symm hpiece, hkept⟩

/-- Below a root, pushing a piece is entering it, with the nearest name first. -/
theorem reverse_push {kept : List (List Char)} (hkept : dotDot ∉ kept) (piece : List Char) :
    (push true kept piece).reverse = enter kept.reverse piece := by
  unfold push enter
  split
  · rfl
  · split
    · cases kept with
      | nil => simp
      | cons name rest => rw [List.mem_cons, not_or] at hkept; simp [Ne.symm hkept.1]
    · simp

/-- Below a root, collapsing pieces is entering one after the other. -/
theorem collapse_true (pieces : List (List Char)) :
    collapse true pieces = pieces.foldl enter [] := by
  -- the stack stays free of `..`, so that each push is the mirror image of an entering
  have mirror : ∀ kept : List (List Char), dotDot ∉ kept →
      (pieces.foldl (push true) kept).reverse = pieces.foldl enter kept.reverse := by
    induction pieces with
    | nil => intro kept _; rfl
    | cons piece pieces ih =>
      intro kept hkept
      rw [List.foldl_cons, ih _ (dotDot_notMem_push hkept piece), reverse_push hkept,
        List.foldl_cons]
  exact mirror [] (by simp)

/-! ### Locations are made of names -/

section Names

variable {isSeparator : Char → Bool} {place pieces : List (List Char)}

/-- Entering a piece that holds no separator keeps a location made of names. -/
theorem isName_of_mem_enter (hplace : ∀ name ∈ place, IsName isSeparator name)
    {piece : List Char} (hfree : ∀ c ∈ piece, isSeparator c = false) :
    ∀ name ∈ enter place piece, IsName isSeparator name := by
  intro name hname
  unfold enter at hname
  split at hname
  · exact hplace name hname
  · rename_i hpiece
    rw [not_or] at hpiece
    split at hname
    · exact hplace name ((List.dropLast_sublist place).subset hname)
    · rename_i hdots
      rw [List.mem_append, List.mem_singleton] at hname
      rcases hname with hname | rfl
      · exact hplace name hname
      · exact ⟨hpiece.1, hpiece.2, hdots, hfree⟩

/-- Following pieces that hold no separator keeps a location made of names. -/
theorem isName_of_mem_foldl (hplace : ∀ name ∈ place, IsName isSeparator name)
    (hfree : ∀ piece ∈ pieces, ∀ c ∈ piece, isSeparator c = false) :
    ∀ name ∈ pieces.foldl enter place, IsName isSeparator name := by
  induction pieces generalizing place with
  | nil => exact hplace
  | cons piece pieces ih =>
    exact ih (isName_of_mem_enter hplace (hfree piece (by simp)))
      fun p hp => hfree p (by simp [hp])

/-- Entering a name goes down to it. -/
theorem enter_of_isName {name : List Char} (hname : IsName isSeparator name) :
    enter place name = place ++ [name] := by
  simp [enter, hname.ne_nil, hname.ne_dot, hname.ne_dotDot]

/-- Entering an empty piece stays. -/
@[simp] theorem enter_nil : enter place [] = place := by simp [enter]

/-- Following names goes down to the last of them. -/
theorem foldl_enter_of_isName (hnames : ∀ name ∈ pieces, IsName isSeparator name) :
    pieces.foldl enter place = place ++ pieces := by
  induction pieces generalizing place with
  | nil => simp
  | cons name pieces ih =>
    rw [List.foldl_cons, enter_of_isName (hnames name (by simp)),
      ih fun p hp => hnames p (by simp [hp])]
    simp

/-- Following pieces without `..` goes down to those that are names. -/
theorem foldl_enter_of_dotDot_notMem (hpieces : dotDot ∉ pieces) :
    pieces.foldl enter place = place ++ pieces.filter (fun piece => piece ≠ [] ∧ piece ≠ dot) := by
  induction pieces generalizing place with
  | nil => simp
  | cons piece pieces ih =>
    rw [List.mem_cons, not_or] at hpieces
    have hdown : piece ≠ dotDot := Ne.symm hpieces.1
    rw [List.foldl_cons, ih hpieces.2]
    by_cases hpiece : piece = [] ∨ piece = dot
    · rcases hpiece with rfl | rfl <;> simp [enter]
    · rw [not_or] at hpiece
      simp [enter, hpiece.1, hpiece.2, hdown]

end Names

/-! ### From one location to another -/

/-- All of the first list is common exactly when it is at the front of the second. -/
theorem commonLength_eq_length_iff (source target : List (List Char)) :
    commonLength source target = source.length ↔ source <+: target := by
  fun_induction commonLength source target with
  | case1 a as bs ih => simp [List.cons_prefix_cons, ih]
  | case2 a as b bs hne => simp [List.cons_prefix_cons, hne]
  | case3 source target hmatch =>
    -- one of the two is empty
    cases source with
    | nil => simp
    | cons a as =>
      cases target with
      | nil => simp
      | cons b bs => exact absurd rfl (hmatch a as b bs rfl)

/-- No more is common than there is. -/
theorem commonLength_le (source target : List (List Char)) :
    commonLength source target ≤ source.length := by
  fun_induction commonLength source target with
  | case1 a as bs ih => simpa using ih
  | case2 => simp
  | case3 => simp

namespace Posix

/-- To a location below another one lead the names that it has more. -/
theorem between_of_inside {source target : List (List Char)} (h : source <+: target) :
    between source target = target.drop source.length := by
  have hcommon := (commonLength_eq_length_iff source target).2 h
  simp [between, hcommon]

/-- To any other location the path goes up first. -/
theorem between_of_outside {source target : List (List Char)} (h : ¬ source <+: target) :
    ∃ rest, between source target = dotDot :: rest := by
  have hle := commonLength_le source target
  have hne := mt (commonLength_eq_length_iff source target).1 h
  obtain ⟨n, hn⟩ : ∃ n, source.length - commonLength source target = n + 1 :=
    Nat.exists_eq_succ_of_ne_zero (by omega)
  refine ⟨List.replicate n dotDot ++ target.drop (commonLength source target), ?_⟩
  simp only [between, hn, List.replicate_succ, List.cons_append]

/-! ### Texts that name a location -/

/-- The location that a path leads to when it is used at `place`. -/
def follow (place : List (List Char)) (p : List Char) : List (List Char) :=
  (Text.split isSeparator p).foldl enter (if isAbsolute p then [] else place)

/-- A text names a location: it is absolute, and its pieces are the names of the location and at
    most one trailing separator. -/
structure Spells (p : List Char) (place : List (List Char)) : Prop where
  isAbsolute : isAbsolute p = true
  isName : ∀ name ∈ place, IsName isSeparator name
  pieces : ∃ rest, (rest = [] ∨ rest = [[]]) ∧ Text.split isSeparator p = [] :: (place ++ rest)

/-- The names of an absolute path are those of the location that it leads to. -/
theorem names_eq_follow {p : List Char} (hp : isAbsolute p = true) (place : List (List Char)) :
    names p = follow place p := by
  simp [names, follow, hp, collapse_true]

/-- An absolute path starts with a separator. -/
theorem exists_eq_cons_of_isAbsolute {p : List Char} (hp : isAbsolute p = true) :
    ∃ rest, p = '/' :: rest := by
  cases p with
  | nil => simp [isAbsolute] at hp
  | cons c rest => exact ⟨rest, by simp_all [isAbsolute]⟩

/-- A slash parts the pieces of both sides. -/
theorem split_append_slash (s t : List Char) :
    Text.split isSeparator (s ++ '/' :: t) =
      Text.split isSeparator s ++ Text.split isSeparator t :=
  Text.split_append_cons rfl s t

/-- Where a path leads from a location made of names, there are names only. -/
theorem isName_of_mem_follow {place : List (List Char)}
    (hplace : ∀ name ∈ place, IsName isSeparator name) (p : List Char) :
    ∀ name ∈ follow place p, IsName isSeparator name := by
  apply isName_of_mem_foldl
  · split
    · simp
    · exact hplace
  · exact fun piece hpiece => Text.free_of_mem_split hpiece

/-- A text that names a location leads there from everywhere. -/
theorem Spells.follow_eq {p : List Char} {place : List (List Char)} (h : Spells p place)
    (start : List (List Char)) : follow start p = place := by
  obtain ⟨rest, hrest, hpieces⟩ := h.pieces
  -- the empty pieces at both ends stay, the names in between go down
  rw [follow, hpieces, if_pos h.isAbsolute, List.foldl_cons, enter_nil, List.foldl_append,
    foldl_enter_of_isName h.isName]
  rcases hrest with rfl | rfl <;> simp

/-- The text of a location: a slash for the root, its names and, if there are any, a last slash. -/
def textOf (place : List (List Char)) (slash : Bool) : List Char :=
  '/' :: (Text.join '/' place ++ if slash ∧ place ≠ [] then ['/'] else [])

/-- The text of a location names it. -/
theorem spells_textOf {place : List (List Char)}
    (hplace : ∀ name ∈ place, IsName isSeparator name) (slash : Bool) :
    Spells (textOf place slash) place := by
  have hfree : ∀ piece ∈ place, ∀ c ∈ piece, isSeparator c = false :=
    fun piece hp => (hplace piece hp).free
  refine ⟨rfl, hplace, ?_⟩
  rw [show Text.split isSeparator (textOf place slash) = [] :: Text.split isSeparator
      (Text.join '/' place ++ if slash ∧ place ≠ [] then ['/'] else []) from rfl]
  by_cases hne : place = []
  · -- the slash of the root leaves one empty piece behind, so that a second one would be too many
    subst hne
    exact ⟨[[]], Or.inr rfl, by simp [Text.join, Text.split]⟩
  · cases slash with
    | false =>
      refine ⟨[], Or.inl rfl, ?_⟩
      rw [if_neg (by simp), List.append_nil, List.append_nil, Text.split_join rfl hne hfree]
    | true =>
      refine ⟨[[]], Or.inr rfl, ?_⟩
      rw [if_pos ⟨rfl, hne⟩, split_append_slash, Text.split_join rfl hne hfree]
      rfl

/-- Normalizing an absolute path gives the text of the location that it leads to, with a last slash
    where the path has one. -/
theorem normalize_eq_textOf {p : List Char} (hp : isAbsolute p = true) :
    normalize p = textOf (follow [] p) (endsInSlash p) := by
  have hne : p ≠ [] := by rintro rfl; simp [isAbsolute] at hp
  rw [← names_eq_follow hp, normalize, if_neg hne, hp, textOf]
  cases names p with
  | nil => simp [Text.join]
  | cons name rest => simp

/-- Normalizing an absolute path names the location that it leads to. -/
theorem spells_normalize {p : List Char} (hp : isAbsolute p = true) :
    Spells (normalize p) (follow [] p) := by
  rw [normalize_eq_textOf hp]
  exact spells_textOf (isName_of_mem_follow (by simp) p) _

/-- The text of a location below the root ends in a slash where it was given one. -/
theorem endsInSlash_textOf {place : List (List Char)}
    (hplace : ∀ name ∈ place, IsName isSeparator name) (hne : place ≠ []) (slash : Bool) :
    endsInSlash (textOf place slash) = slash := by
  cases slash with
  | true =>
    rw [textOf, if_pos ⟨rfl, hne⟩, endsInSlash, ← List.cons_append, List.getLast?_concat]
    rfl
  | false =>
    -- after a last slash there would be an empty piece, and the last piece is a name
    rw [Bool.eq_false_iff]
    intro hends
    have hlast : (textOf place false).getLast? = some '/' := by simpa [endsInSlash] using hends
    have hempty : (Text.split isSeparator (textOf place false)).getLast? = some [] :=
      Text.getLast?_split_of_getLast? rfl hlast
    have hpieces : Text.split isSeparator (textOf place false) = [] :: place := by
      rw [textOf, if_neg (by simp), List.append_nil]
      exact congrArg ([] :: ·) (Text.split_join rfl hne fun name hname => (hplace name hname).free)
    rw [hpieces, List.getLast?_cons_of_ne_nil hne] at hempty
    exact (hplace [] (List.mem_of_getLast? hempty)).ne_nil rfl

/-- Normalizing what is normalized changes nothing. -/
theorem normalize_normalize {p : List Char} (hp : isAbsolute p = true) :
    normalize (normalize p) = normalize p := by
  have hspells := spells_normalize hp
  have hnames : ∀ name ∈ follow [] p, IsName isSeparator name := hspells.isName
  rw [normalize_eq_textOf hspells.isAbsolute, hspells.follow_eq, normalize_eq_textOf hp]
  by_cases hne : follow [] p = []
  · simp [textOf, hne]
  · rw [endsInSlash_textOf hnames hne]

/-- What an absolute path starts is absolute. -/
theorem isAbsolute_append {root : List Char} (hroot : isAbsolute root = true) (rest : List Char) :
    isAbsolute (root ++ rest) = true := by
  obtain ⟨names, rfl⟩ := exists_eq_cons_of_isAbsolute hroot
  rfl

/-- Joining passes over an empty path. -/
theorem join_nil {root : List Char} (hroot : isAbsolute root = true) :
    join [root, []] = normalize root := by
  have hne : root ≠ [] := by rintro rfl; simp [isAbsolute] at hroot
  simp [join, hne, Text.join]

/-- Joining puts a path behind a slash. -/
theorem join_of_ne_nil {root p : List Char} (hroot : isAbsolute root = true) (hp : p ≠ []) :
    join [root, p] = normalize (root ++ '/' :: p) := by
  have hne : root ≠ [] := by rintro rfl; simp [isAbsolute] at hroot
  simp [join, hne, hp, Text.join]

/-- A relative path after an absolute one leads where it leads from there. -/
theorem follow_append {root p : List Char} (hroot : isAbsolute root = true)
    (hp : isAbsolute p = false) :
    follow [] (root ++ '/' :: p) = follow (follow [] root) p := by
  rw [follow, follow, follow, if_pos (isAbsolute_append hroot _), if_pos hroot, hp,
    split_append_slash, List.foldl_append]
  rfl

/-- Joining a relative path to an absolute one names the location that it leads to from there. -/
theorem spells_join {root p : List Char} (hroot : isAbsolute root = true)
    (hp : isAbsolute p = false) :
    Spells (join [root, p]) (follow (follow [] root) p) := by
  by_cases hempty : p = []
  · subst hempty
    rw [join_nil hroot]
    exact spells_normalize hroot
  · rw [join_of_ne_nil hroot hempty, ← follow_append hroot hp]
    exact spells_normalize (isAbsolute_append hroot _)

/-- A name is no absolute path. -/
theorem isAbsolute_of_isName {name : List Char} (hname : IsName isSeparator name) :
    isAbsolute name = false := by
  obtain ⟨c, rest, rfl⟩ := List.exists_cons_of_ne_nil hname.ne_nil
  simpa [isAbsolute, isSeparator] using hname.free c (by simp)

/-- A name leads one step down. -/
theorem follow_of_isName {name : List Char} (hname : IsName isSeparator name)
    (place : List (List Char)) : follow place name = place ++ [name] := by
  rw [follow, isAbsolute_of_isName hname, Text.split_of_free hname.free, List.foldl_cons,
    enter_of_isName hname]
  rfl

/-- Joining a name to a text names the location one step below that of the text. -/
theorem Spells.join_name {p name : List Char} {place : List (List Char)} (h : Spells p place)
    (hname : IsName isSeparator name) : Spells (join [p, name]) (place ++ [name]) := by
  have hjoin := spells_join h.isAbsolute (isAbsolute_of_isName hname)
  rwa [h.follow_eq, follow_of_isName hname] at hjoin

/-- The path from one named location to another depends on the locations alone. -/
theorem relative_of_spells {source target : List Char} {s t : List (List Char)}
    (hs : Spells source s) (ht : Spells target t) (cwd : List Char) :
    relative cwd source target = Text.join '/' (between s t) := by
  have resolved : ∀ {p : List Char} {place : List (List Char)}, Spells p place →
      resolve cwd p = place := by
    intro p place h
    rw [resolve, if_pos h.isAbsolute, names_eq_follow h.isAbsolute [], h.follow_eq]
  rw [relative, resolved hs, resolved ht]

/-! ### Last names -/

section LastName

variable {front name : List Char}

/-- A name at the end of a text, behind a slash or alone, is its last piece. -/
theorem exists_split_append_name (hfront : front = [] ∨ front.getLast? = some '/')
    (hname : IsName isSeparator name) :
    ∃ pieces, Text.split isSeparator (front ++ name) = pieces ++ [name] := by
  rcases hfront with rfl | hlast
  · exact ⟨[], Text.split_of_free hname.free⟩
  · obtain ⟨directory, rfl⟩ := List.getLast?_eq_some_iff.1 hlast
    refine ⟨Text.split isSeparator directory, ?_⟩
    rw [List.append_assoc, List.singleton_append, split_append_slash,
      Text.split_of_free hname.free]

/-- Normalizing keeps a name at the end. -/
theorem exists_normalize_append_name (hfront : front = [] ∨ front.getLast? = some '/')
    (hname : IsName isSeparator name) :
    ∃ kept, normalize (front ++ name) = kept ++ name ∧
      (kept = [] ∨ kept.getLast? = some '/') := by
  obtain ⟨pieces, hpieces⟩ := exists_split_append_name hfront hname
  have hpush : ∀ rooted stack, push rooted stack name = name :: stack := by
    simp [push, hname.ne_nil, hname.ne_dot, hname.ne_dotDot]
  obtain ⟨place, hplace⟩ : ∃ place, names (front ++ name) = place ++ [name] := by
    rw [names, hpieces, collapse, List.foldl_append, List.foldl_cons, hpush]
    exact ⟨_, List.reverse_cons⟩
  have hslash : endsInSlash (front ++ name) = false := by
    have hlast := hname.free _ (List.getLast_mem hname.ne_nil)
    rw [endsInSlash, List.getLast?_append, List.getLast?_eq_some_getLast hname.ne_nil]
    simpa [isSeparator] using hlast
  obtain ⟨kept, hjoin, hkept⟩ := Text.join_concat_eq_append '/' place name
  have hnormal : normalize (front ++ name) =
      (if isAbsolute (front ++ name) then ['/'] else []) ++ (kept ++ name) := by
    rw [normalize, if_neg (by simp [hname.ne_nil]), hplace, hslash, ← hjoin]
    cases place <;> simp
  rw [hnormal, ← List.append_assoc]
  refine ⟨_, rfl, ?_⟩
  rcases hkept with rfl | hlast
  · split <;> simp
  · exact .inr (by rw [List.getLast?_append, hlast]; rfl)

/-- The last name of a name joined to a directory is that name, whatever the directory is. -/
theorem baseName_join_name (directory : List Char) (hname : IsName isSeparator name) :
    baseName (join [directory, name]) = name := by
  have hjoin : ∃ front, join [directory, name] = normalize (front ++ name) ∧
      (front = [] ∨ front.getLast? = some '/') := by
    by_cases hempty : directory = []
    · exact ⟨[], by simp [join, hempty, hname.ne_nil, Text.join], .inl rfl⟩
    · exact ⟨directory ++ ['/'], by simp [join, hempty, hname.ne_nil, Text.join], .inr (by simp)⟩
  obtain ⟨front, hjoin, hfront⟩ := hjoin
  obtain ⟨kept, hnormal, hkept⟩ := exists_normalize_append_name hfront hname
  obtain ⟨pieces, hpieces⟩ := exists_split_append_name hkept hname
  rw [hjoin, hnormal, baseName, hpieces, List.filter_append]
  simp [hname.ne_nil]

end LastName

end Posix

end ImageBuild.Path
