import ImageBuild.FileTree
import ImageBuild.Proofs.Path.Location
import ImageBuild.Proofs.Session

namespace ImageBuild.FileTree

open ImageBuild.Path

/-!
# File trees — what lies where, and where paths lead

Where a path leads is decided by its pieces alone; the tree only says whether the path is open
(`map_toList_of_walk`).  A path of names passes through the front parts of the location that it leads
to and through nothing else, so that two trees which agree there are walked alike
(`walk_of_agree`).  In a closed tree a location that is not there has nothing below it either
(`not_prefix_of_notMem`).
-/

variable {t t' : FileTree}

/-! ### Nodes -/

/-- The root is a directory. -/
@[simp] theorem node?_nil (t : FileTree) : t.node? [] = some .directory := by simp [node?]

/-- What lies at a location is listed there, unless the location is the root. -/
theorem mem_nodes_of_node? {location : Location} {node : Node} (h : t.node? location = some node)
    (hne : location ≠ []) : (location, node) ∈ t.nodes := by
  rw [node?, if_neg hne, List.lookup_eq_some_iff] at h
  obtain ⟨front, back, hnodes, -⟩ := h
  simp [hnodes]

/-- What is inserted lies at its location, and nothing changes at other locations. -/
theorem node?_insert (t : FileTree) {location : Location} (hne : location ≠ []) (node : Node)
    (other : Location) :
    (t.insert location node).node? other =
      if other = location then some node else t.node? other := by
  by_cases hroot : other = []
  · simp [hroot, Ne.symm hne]
  have hkept : (t.nodes.filter (·.1 ≠ location)).lookup other =
      if other = location then none else t.nodes.lookup other := by
    induction t.nodes with
    | nil => simp
    | cons entry rest ih =>
      by_cases hentry : entry.1 = location
      · rw [List.filter_cons_of_neg (by simp [hentry]), ih]
        by_cases hother : other = location
        · simp [hother]
        · have hkey : (other == entry.1) = false := by simpa [hentry] using hother
          rw [if_neg hother, if_neg hother, List.lookup_cons, hkey]
      · rw [List.filter_cons_of_pos (by simp [hentry]), List.lookup_cons, List.lookup_cons, ih]
        by_cases hkey : other = entry.1
        · simp [hkey, hentry]
        · simp [beq_eq_false_iff_ne.2 hkey]
  simp only [insert, node?, if_neg hroot, List.lookup_append, hkept]
  by_cases hother : other = location
  · simp [hother]
  · have hkey : (other == location) = false := by simpa using hother
    simp [hother, List.lookup_cons, hkey]

/-- What is inserted where nothing is listed comes last. -/
theorem insert_of_notMem {location : Location} (h : ∀ entry ∈ t.nodes, entry.1 ≠ location)
    (node : Node) : t.insert location node = ⟨t.nodes ++ [(location, node)]⟩ := by
  rw [insert, List.filter_eq_self.2 (by simpa using h)]

/-- What is removed does not lie there any more. -/
theorem node?_remove (t : FileTree) {location : Location} (hne : location ≠ []) :
    (t.remove location).node? location = none := by
  rw [node?, if_neg hne, List.lookup_eq_none_iff, remove]
  intro entry hentry
  have hother := (List.mem_filter.1 hentry).2
  rw [Bool.not_eq_true', Bool.eq_false_iff, Ne, List.isPrefixOf_iff_prefix] at hother
  exact bne_iff_ne.2 fun heq => hother ⟨[], by rw [heq, List.append_nil]⟩

/-! ### Closed trees -/

/-- Everything in a tree lies in a directory. -/
def IsClosed (t : FileTree) : Prop :=
  ∀ entry ∈ t.nodes, t.node? entry.1.dropLast = some .directory

instance (t : FileTree) : Decidable t.IsClosed :=
  inferInstanceAs (Decidable (∀ entry ∈ t.nodes, t.node? entry.1.dropLast = some .directory))

/-- In a closed tree, every location above something is a directory. -/
theorem IsClosed.node?_of_prefix (h : t.IsClosed) {entry : Location × Node} (hentry : entry ∈ t.nodes)
    {location : Location} (hfront : location <+: entry.1) (hne : location ≠ entry.1) :
    t.node? location = some .directory := by
  -- one step up from the entry, or further up from the directory there
  induction hlength : entry.1.length generalizing entry with
  | zero =>
    have hnil : entry.1 = [] := List.length_eq_zero_iff.1 hlength
    rw [hnil, List.prefix_nil] at hfront
    exact absurd (hfront.trans hnil.symm) hne
  | succ n ih =>
    have hparent := h entry hentry
    have hsome : entry.1 ≠ [] := by
      intro hnil
      simp [hnil] at hlength
    rw [← List.dropLast_concat_getLast hsome, List.prefix_concat_iff,
      List.dropLast_concat_getLast hsome] at hfront
    have hup : location <+: entry.1.dropLast := hfront.resolve_left hne
    by_cases hsame : location = entry.1.dropLast
    · rw [hsame, hparent]
    · have hroot : entry.1.dropLast ≠ [] := by
        intro hnil
        rw [hnil, List.prefix_nil] at hup
        exact hsame (hup.trans hnil.symm)
      exact ih (mem_nodes_of_node? hparent hroot) hup hsame (by simp [hlength])

/-- In a closed tree, below a location that is not listed there is nothing. -/
theorem IsClosed.not_prefix_of_notMem (h : t.IsClosed) {location : Location} (hne : location ≠ [])
    (hnew : ∀ entry ∈ t.nodes, entry.1 ≠ location) :
    ∀ entry ∈ t.nodes, ¬ location <+: entry.1 := by
  intro entry hentry hfront
  have hdirectory := h.node?_of_prefix hentry hfront (hnew entry hentry).symm
  exact hnew _ (mem_nodes_of_node? hdirectory hne) rfl

/-- A name in a directory is that of something listed there. -/
theorem mem_names_of_mem_nodes {place : Location} {name : String} {node : Node}
    (h : (place ++ [name], node) ∈ t.nodes) : name ∈ t.names place := by
  rw [names, List.mem_filterMap]
  refine ⟨([name], node), ?_, rfl⟩
  rw [below, List.mem_filterMap]
  exact ⟨_, h, by simp [List.isPrefixOf_iff_prefix]⟩

/-! ### Walks -/

/-- A walk goes on from where its first pieces lead. -/
theorem walk_append (t : FileTree) (start : Location) (pieces pieces' : List (List Char)) :
    t.walk start (pieces ++ pieces') = t.walk start pieces >>= fun next => t.walk next pieces' := by
  induction pieces generalizing start with
  | nil => rfl
  | cons piece pieces ih =>
    simp only [List.cons_append, walk]
    cases t.directory? start with
    | error refusal => rfl
    | ok _ =>
      simp only [bind, Except.bind] at ih ⊢
      -- the piece stays, goes up, is too long, or goes down
      split
      · exact ih start
      · split
        · exact ih _
        · split
          · rfl
          · exact ih _

/-- What one piece of a path does to the location where it is used. -/
inductive Enters (start : Location) (piece : List Char) : Location → Prop
  | stay (h : piece = [] ∨ piece = dot) : Enters start piece start
  | up (h : piece = dotDot) : Enters start piece start.dropLast
  | down (h : ¬ (piece = [] ∨ piece = dot)) (hname : piece ≠ dotDot)
    (hshort : ¬ maxNameLength < (Text.Utf8.encode piece).length) :
    Enters start piece (start ++ [String.ofList piece])

/-- A piece is entered as paths are followed by their text alone. -/
theorem Enters.map_toList {start next : Location} {piece : List Char} (h : Enters start piece next) :
    next.map String.toList = enter (start.map String.toList) piece := by
  cases h with
  | stay h => rw [enter, if_pos h]
  | up h =>
    have hmove : ¬ (piece = [] ∨ piece = dot) := by
      rw [h]
      decide
    rw [enter, if_neg hmove, if_pos h, List.map_dropLast]
  | down h hname => simp [enter, h, hname]

/-- A walk over one more piece enters it from a directory. -/
theorem walk_cons_iff {start location : Location} {piece : List Char} {pieces : List (List Char)} :
    t.walk start (piece :: pieces) = .ok location ↔
      t.node? start = some .directory ∧
        ∃ next, Enters start piece next ∧ t.walk next pieces = .ok location := by
  have hopen : t.directory? start = .ok () ↔ t.node? start = some .directory := by
    unfold directory?
    split <;> simp_all
  rw [walk]
  constructor
  · intro h
    obtain ⟨_, hdirectory, h⟩ := ok_of_bind h
    refine ⟨hopen.1 hdirectory, ?_⟩
    split at h
    · rename_i hstay
      exact ⟨_, .stay hstay, h⟩
    · rename_i hmove
      split at h
      · rename_i hup
        exact ⟨_, .up hup, h⟩
      · rename_i hname
        split at h
        · cases h
        · rename_i hshort
          exact ⟨_, .down hmove hname hshort, h⟩
  · rintro ⟨hdirectory, next, hnext, h⟩
    rw [hopen.2 hdirectory]
    cases hnext with
    | stay hstay => exact (if_pos hstay).trans h
    | up hup =>
      subst hup
      exact h
    | down hmove hname hshort =>
      exact (if_neg hmove).trans ((if_neg hname).trans ((if_neg hshort).trans h))

/-- A walk leads where its pieces lead. -/
theorem map_toList_of_walk {pieces : List (List Char)} {start location : Location}
    (h : t.walk start pieces = .ok location) :
    location.map String.toList = pieces.foldl enter (start.map String.toList) := by
  induction pieces generalizing start with
  | nil =>
    cases h
    rfl
  | cons piece pieces ih =>
    obtain ⟨-, next, hnext, h⟩ := walk_cons_iff.1 h
    rw [ih h, hnext.map_toList, List.foldl_cons]

/-- A walk that never goes up leads to a location below its start. -/
theorem prefix_of_walk {pieces : List (List Char)} (hdown : dotDot ∉ pieces)
    {start location : Location} (h : t.walk start pieces = .ok location) : start <+: location := by
  induction pieces generalizing start with
  | nil =>
    cases h
    exact List.prefix_refl _
  | cons piece pieces ih =>
    rw [List.mem_cons, not_or] at hdown
    obtain ⟨-, next, hnext, h⟩ := walk_cons_iff.1 h
    have hbelow := ih hdown.2 h
    cases hnext with
    | stay => exact hbelow
    | up hup => exact absurd hup.symm hdown.1
    | down => exact (List.prefix_append _ _).trans hbelow

/-- A walk that never goes up passes only through what lies in front of the location that it leads
    to, so that it goes the same way in every tree that agrees there. -/
theorem walk_of_agree {pieces : List (List Char)} (hdown : dotDot ∉ pieces)
    {start location : Location} (h : t.walk start pieces = .ok location)
    (hagree : ∀ place, place <+: location → t'.node? place = t.node? place) :
    t'.walk start pieces = .ok location := by
  have hbelow := prefix_of_walk hdown h
  induction pieces generalizing start with
  | nil => exact h
  | cons piece pieces ih =>
    rw [List.mem_cons, not_or] at hdown
    obtain ⟨hdirectory, next, hnext, h⟩ := walk_cons_iff.1 h
    exact walk_cons_iff.2 ⟨(hagree _ hbelow).trans hdirectory, next, hnext,
      ih hdown.2 h (prefix_of_walk hdown.2 h)⟩

/-! ### Looking up, reading and copying -/

/-- A path leads to what lies at the end of the walk over its pieces. -/
theorem locate_eq_ok_iff {path : List Char} {location : Location} {node : Node} :
    t.locate path = .ok (location, node) ↔
      ∃ pieces, pieces? path = .ok pieces ∧ t.walk [] pieces = .ok location ∧
        t.node? location = some node := by
  rw [locate]
  constructor
  · intro h
    obtain ⟨pieces, hpieces, h⟩ := ok_of_bind h
    obtain ⟨found, hwalk, h⟩ := ok_of_bind h
    split at h
    · rename_i hnode
      cases h
      exact ⟨pieces, hpieces, hwalk, hnode⟩
    · cases h
  · rintro ⟨pieces, hpieces, hwalk, hnode⟩
    rw [hpieces]
    simp only [bind, Except.bind, hwalk, hnode]

/-- A path leads where it is followed to by its text alone, and it starts at the root. -/
theorem follow_of_locate {path : List Char} {location : Location} {node : Node}
    (h : t.locate path = .ok (location, node)) :
    Posix.isAbsolute path = true ∧ Posix.follow [] path = location.map String.toList := by
  obtain ⟨pieces, hpieces, hwalk, -⟩ := locate_eq_ok_iff.1 h
  unfold pieces? at hpieces
  split at hpieces
  · rename_i rest
    cases hpieces
    refine ⟨rfl, ?_⟩
    rw [map_toList_of_walk hwalk]
    rfl
  · cases hpieces

/-- A path leads to a directory when that is what lies there. -/
theorem locateDirectory_eq_ok_iff {path : List Char} {location : Location} :
    t.locateDirectory path = .ok location ↔ t.locate path = .ok (location, .directory) := by
  rw [locateDirectory]
  constructor
  · intro h
    obtain ⟨⟨found, node⟩, hlocate, h⟩ := ok_of_bind h
    split at h
    · rename_i heq
      cases heq
      cases h
      exact hlocate
    · cases h
  · intro h
    rw [h]
    rfl

/-- What is read from a path is the content of the file that it leads to. -/
theorem read_of_locate {path : List Char} {location : Location} {content : List UInt8}
    {executable : Bool} (h : t.locate path = .ok (location, .file content executable)) :
    t.read path = .ok content := by
  rw [read, h]
  rfl

/-- A file is written where the walk over the pieces of its path ends. -/
theorem walk_of_locateForWriting {path : List Char} {location : Location}
    (h : t.locateForWriting path = .ok location) :
    ∃ pieces, pieces? path = .ok pieces ∧ t.walk [] pieces = .ok location := by
  rw [locateForWriting] at h
  obtain ⟨pieces, hpieces, h⟩ := ok_of_bind h
  refine ⟨pieces, hpieces, ?_⟩
  split at h
  · cases h
  · cases h
  · obtain ⟨found, hwalk, h⟩ := ok_of_bind h
    split at h
    · cases h
    · cases h
      exact hwalk

/-- No directory is where a file is written. -/
theorem node?_of_locateForWriting {path : List Char} {location : Location}
    (h : t.locateForWriting path = .ok location) : t.node? location ≠ some .directory := by
  rw [locateForWriting] at h
  obtain ⟨pieces, -, h⟩ := ok_of_bind h
  split at h
  · cases h
  · cases h
  · obtain ⟨found, -, h⟩ := ok_of_bind h
    split at h
    · cases h
    · rename_i hnode
      cases h
      exact hnode

/-- Copying puts the file that one path leads to where the other path has it written. -/
theorem copy_eq_ok {source target : List Char} {copied : FileTree}
    (h : t.copy source target = .ok copied) :
    ∃ found content executable location,
      t.locate source = .ok (found, .file content executable) ∧
      t.locateForWriting target = .ok location ∧
      copied = t.insert location (.file content executable) := by
  rw [copy] at h
  obtain ⟨⟨found, node⟩, hsource, h⟩ := ok_of_bind h
  obtain ⟨location, htarget, h⟩ := ok_of_bind h
  cases node with
  | directory => cases h
  | file content executable =>
    cases h
    exact ⟨found, content, executable, location, hsource, htarget, rfl⟩

/-- Copying a file keeps all directories. -/
theorem node?_of_copy {source target : List Char} {copied : FileTree}
    (h : t.copy source target = .ok copied) {place : Location}
    (hplace : t.node? place = some .directory) : copied.node? place = some .directory := by
  obtain ⟨-, content, executable, location, -, htarget, rfl⟩ := copy_eq_ok h
  have hnode := node?_of_locateForWriting htarget
  have hne : location ≠ [] := by
    rintro rfl
    exact hnode (node?_nil t)
  rw [node?_insert t hne, if_neg, hplace]
  rintro rfl
  exact hnode hplace

/-! ### Paths that name a location -/

section Paths

variable {path : List Char} {place : List (List Char)}

/-- The pieces of a text that names a location are its names and at most one empty piece. -/
theorem pieces?_of_spells (h : Posix.Spells path place) :
    ∃ rest, (rest = [] ∨ rest = [[]]) ∧ pieces? path = .ok (place ++ rest) := by
  obtain ⟨rest, hrest, hpieces⟩ := h.pieces
  obtain ⟨tail, rfl⟩ := Posix.exists_eq_cons_of_isAbsolute h.isAbsolute
  refine ⟨rest, hrest, ?_⟩
  have htail : Text.split Posix.isSeparator tail = place ++ rest := (List.cons.inj hpieces).2
  exact congrArg Except.ok htail

/-- Whatever pieces a text that names a location has, they are these. -/
theorem eq_append_of_spells (h : Posix.Spells path place) {pieces : List (List Char)}
    (hpieces : pieces? path = .ok pieces) :
    ∃ rest, (rest = [] ∨ rest = [[]]) ∧ pieces = place ++ rest := by
  obtain ⟨rest, hrest, hnamed⟩ := pieces?_of_spells h
  exact ⟨rest, hrest, Except.ok.inj (hpieces.symm.trans hnamed)⟩

/-- The pieces of a text that names a location never go up. -/
theorem dotDot_notMem_of_spells (h : Posix.Spells path place) {rest : List (List Char)}
    (hrest : rest = [] ∨ rest = [[]]) : dotDot ∉ place ++ rest := by
  rw [List.mem_append, not_or]
  refine ⟨fun hmem => (h.isName _ hmem).ne_dotDot rfl, ?_⟩
  rcases hrest with rfl | rfl <;> simp [dotDot]

/-- One more empty piece does not lead further. -/
theorem walk_names {rest : List (List Char)} (hrest : rest = [] ∨ rest = [[]])
    {start location : Location} (hwalk : t.walk start (place ++ rest) = .ok location) :
    t.walk start place = .ok location := by
  rw [walk_append] at hwalk
  obtain ⟨next, hplace, hwalk⟩ := ok_of_bind hwalk
  rcases hrest with rfl | rfl
  · cases hwalk
    exact hplace
  · obtain ⟨-, last, henters, hwalk⟩ := walk_cons_iff.1 hwalk
    cases hwalk
    cases henters with
    | stay => exact hplace
    | up hup => simp [dotDot] at hup
    | down hpiece => exact absurd (.inl rfl) hpiece

/-- A walk over names leads to the location that has them. -/
theorem eq_of_walk_names (hplace : ∀ name ∈ place, IsName Posix.isSeparator name)
    {location : Location} (hwalk : t.walk [] place = .ok location) :
    location = place.map String.ofList := by
  have hlocation := map_toList_of_walk hwalk
  rw [List.map_nil, foldl_enter_of_isName hplace] at hlocation
  simpa [Function.comp_def] using congrArg (List.map String.ofList) hlocation

/-- What is written to a path that names a location is written there. -/
theorem locateForWriting_of_spells (h : Posix.Spells path place) {location : Location}
    (hlocate : t.locateForWriting path = .ok location) :
    t.walk [] place = .ok location ∧ location = place.map String.ofList := by
  obtain ⟨pieces, hpieces, hwalk⟩ := walk_of_locateForWriting hlocate
  obtain ⟨rest, hrest, rfl⟩ := eq_append_of_spells h hpieces
  have hnames := walk_names hrest hwalk
  exact ⟨hnames, eq_of_walk_names h.isName hnames⟩

/-- A path that names a location leads to the directory at the end of the walk over its names. -/
theorem locateDirectory_of_spells (h : Posix.Spells path place) {location : Location}
    (hwalk : t.walk [] place = .ok location) (hnode : t.node? location = some .directory) :
    t.locateDirectory path = .ok location := by
  obtain ⟨rest, hrest, hpieces⟩ := pieces?_of_spells h
  have hstay : t.walk location rest = .ok location := by
    rcases hrest with rfl | rfl
    · rfl
    · exact walk_cons_iff.2 ⟨hnode, location, .stay (.inl rfl), rfl⟩
  refine locateDirectory_eq_ok_iff.2 (locate_eq_ok_iff.2 ⟨_, hpieces, ?_, hnode⟩)
  rw [walk_append, hwalk]
  exact hstay

/-- A path that names a location leads to the same in every tree that agrees in front of what it
    leads to. -/
theorem locate_of_agree (h : Posix.Spells path place) {location : Location} {node : Node}
    (hlocate : t.locate path = .ok (location, node))
    (hagree : ∀ front, front <+: location → t'.node? front = t.node? front) :
    t'.locate path = .ok (location, node) := by
  obtain ⟨pieces, hpieces, hwalk, hnode⟩ := locate_eq_ok_iff.1 hlocate
  obtain ⟨rest, hrest, rfl⟩ := eq_append_of_spells h hpieces
  exact locate_eq_ok_iff.2 ⟨_, hpieces, walk_of_agree (dotDot_notMem_of_spells h hrest) hwalk hagree,
    (hagree _ (List.prefix_refl _)).trans hnode⟩

end Paths

end ImageBuild.FileTree
