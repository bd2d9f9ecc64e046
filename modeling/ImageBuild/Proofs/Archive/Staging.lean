import Mathlib.Data.List.Nodup
import ImageBuild.Archive.Staging
import ImageBuild.Proofs.FileTree

namespace ImageBuild.Archive

open ImageBuild.Path ImageBuild.Path.Posix

/-!
# Staging — a fresh directory with one copied file in it, and nothing else changed

The name of a staging directory is new in the temporary directory (`freshName_notMem`), so that in a
closed tree nothing lies at or below it yet (`not_prefix_of_freshName`).  Adding the directory and a
file in it adds two nodes to the tree (`insert_file_in_new`), from which everything is read off that
`IsStaged` says of it.  The path of the directory leads to it, and the source is found where it was,
because neither walk passes through what was added (`isStaged_of_new`).
-/

/-! ### Fresh names -/

/-- The name of a staging directory that ends in some more letters. -/
def stagingName (length : Nat) : String := stagingStem ++ String.ofList (List.replicate length 'X')

/-- The letters of the name of a staging directory. -/
theorem toList_stagingName (length : Nat) :
    (stagingName length).toList = stagingStem.toList ++ List.replicate length 'X' := by
  simp [stagingName]

/-- Names of staging directories differ by their length. -/
theorem stagingName_injective : Function.Injective stagingName := by
  intro m n h
  have hlength := congrArg (fun name => name.toList.length) h
  simpa [toList_stagingName] using hlength

/-- The name of a staging directory is one of them. -/
theorem exists_freshName_eq (taken : List String) (tries length : Nat) :
    ∃ n, freshName taken tries length = stagingName n := by
  fun_induction freshName taken tries length with
  | case1 length => exact ⟨length, rfl⟩
  | case2 tries length name htaken ih => exact ih
  | case3 tries length name hfree => exact ⟨length, rfl⟩

/-- When even the last name that was tried is taken, all of them are. -/
theorem mem_of_freshName_mem {taken : List String} {tries length : Nat}
    (h : freshName taken tries length ∈ taken) :
    ∀ k ≤ tries, stagingName (length + k) ∈ taken := by
  fun_induction freshName taken tries length with
  | case1 length =>
    intro k hk
    obtain rfl : k = 0 := by omega
    exact h
  | case2 tries length name htaken ih =>
    intro k hk
    cases k with
    | zero => exact List.contains_iff_mem.1 htaken
    | succ k =>
      rw [show length + (k + 1) = length + 1 + k by omega]
      exact ih h k (by omega)
  | case3 tries length name hfree => exact absurd (List.contains_iff_mem.2 h) hfree

/-- A name is fresh when more names are tried than there are taken ones. -/
theorem freshName_notMem (taken : List String) (length : Nat) :
    freshName taken taken.length length ∉ taken := by
  intro h
  -- one name more than there are taken ones would be taken
  have hsubset : (List.range (taken.length + 1)).map (stagingName <| length + ·) ⊆ taken := by
    intro name hname
    obtain ⟨k, hk, rfl⟩ := List.mem_map.1 hname
    exact mem_of_freshName_mem h k (by simpa [Nat.lt_succ_iff] using hk)
  have hnodup : ((List.range (taken.length + 1)).map (stagingName <| length + ·)).Nodup :=
    List.nodup_range.map fun m n hmn => Nat.add_left_cancel (stagingName_injective hmn)
  have hlength := hnodup.length_le_of_subset hsubset
  simp only [List.length_map, List.length_range] at hlength
  omega

/-- The name of a staging directory is a name in paths. -/
theorem isName_freshName (taken : List String) (tries length : Nat) :
    IsName isSeparator (freshName taken tries length).toList := by
  obtain ⟨n, hn⟩ := exists_freshName_eq taken tries length
  have hfree : stagingStem.toList.all (!isSeparator ·) = true := by decide
  obtain ⟨tail, hhead⟩ : ∃ tail, stagingStem.toList = 'c' :: tail :=
    ⟨stagingStem.toList.tail, by decide⟩
  rw [hn, toList_stagingName]
  refine ⟨by simp [hhead], by simp [hhead, dot], by simp [hhead, dotDot], ?_⟩
  intro c hc
  rw [List.mem_append, List.mem_replicate] at hc
  rcases hc with hc | ⟨-, rfl⟩
  · simpa using List.all_eq_true.1 hfree c hc
  · rfl

/-! ### New directories -/

section NewDirectory

variable {tree : FileTree} {directory : Location}

/-- A new directory with a file in it is all that is added to a tree. -/
theorem insert_file_in_new (hnew : ∀ entry ∈ tree.nodes, ¬ directory <+: entry.1) (name : String)
    (node : Node) :
    (tree.insert directory .directory).insert (directory ++ [name]) node =
      ⟨tree.nodes ++ [(directory, .directory), (directory ++ [name], node)]⟩ := by
  rw [FileTree.insert_of_notMem fun entry hentry heq => hnew entry hentry ⟨[], by simp [heq]⟩,
    FileTree.insert_of_notMem]
  · simp
  · intro entry hentry heq
    rw [List.mem_append, List.mem_singleton] at hentry
    rcases hentry with hentry | rfl
    · exact hnew entry hentry ⟨[name], heq.symm⟩
    · simp at heq

/-- Below a new directory with a file in it, there is this file and nothing else. -/
theorem below_new (hnew : ∀ entry ∈ tree.nodes, ¬ directory <+: entry.1) (name : String)
    (node : Node) :
    FileTree.below ⟨tree.nodes ++ [(directory, .directory), (directory ++ [name], node)]⟩ directory =
      [([name], node)] := by
  have hold : FileTree.below tree directory = [] := by
    refine List.filterMap_eq_nil_iff.2 fun entry hentry => if_neg ?_
    simp [List.isPrefixOf_iff_prefix, hnew entry hentry]
  rw [FileTree.below] at hold ⊢
  rw [List.filterMap_append, hold]
  simp [List.isPrefixOf_iff_prefix]

/-- Nothing of a tree lies in a new directory. -/
theorem filter_new (hnew : ∀ entry ∈ tree.nodes, ¬ directory <+: entry.1) :
    tree.nodes.filter (fun entry => !directory.isPrefixOf entry.1) = tree.nodes := by
  refine List.filter_eq_self.2 fun entry hentry => ?_
  simpa [Bool.eq_false_iff, List.isPrefixOf_iff_prefix] using hnew entry hentry

/-- Removing a new directory leaves the tree without it. -/
theorem remove_new (hnew : ∀ entry ∈ tree.nodes, ¬ directory <+: entry.1) (name : String)
    (node : Node) :
    FileTree.remove ⟨tree.nodes ++ [(directory, .directory), (directory ++ [name], node)]⟩ directory =
      tree := by
  simp [FileTree.remove, List.filter_append, filter_new hnew, List.isPrefixOf_iff_prefix]

end NewDirectory

/-! ### What staging leaves -/

/-- What staging makes of a tree: a directory that was not there before, with a copy of the source in
    it and nothing else, and no other change. -/
structure IsStaged (before after : FileTree) (directory : Location) (path source name : String) :
    Prop where
  /-- The path of the directory leads to it. -/
  located : after.locateDirectory path.toList = .ok directory
  /-- Nothing lay there, nor anywhere below. -/
  fresh : ∀ entry ∈ before.nodes, ¬ directory <+: entry.1
  /-- One file is in the directory, with the bytes of the source. -/
  holds : ∃ content executable, before.read source.toList = .ok content ∧
    after.below directory = [([name], .file content executable)]
  /-- Without the directory, everything is as before. -/
  kept : after.remove directory = before

variable {tree : FileTree} {temporary source placeholder : String} {staged : Staged}

/-- A file is copied as the tree has it copied. -/
theorem copy_of_copyRefusal {target : List Char} {source : List Char} {copied : FileTree}
    (h : copyRefusal tree source target = .ok copied) : tree.copy source target = .ok copied := by
  unfold copyRefusal at h
  split at h
  · cases h
  split at h
  · cases h
  split at h
  · cases h
    assumption
  · cases h

/-- Staging copies the source into a new directory with a fresh name. -/
theorem stage_eq_ok (h : stage tree temporary source placeholder = .ok staged) :
    ∃ place name path copied,
      tree.locateDirectory temporary.toList = .ok place ∧
      name = freshName (tree.names place) (tree.names place).length 6 ∧
      path = join [temporary.toList, name.toList] ∧
      (tree.insert (place ++ [name]) .directory).copy source.toList
        (join [path, placeholder.toList]) = .ok copied ∧
      staged = ⟨copied, place ++ [name], String.ofList path⟩ := by
  rw [stage, tryStage] at h
  split at h
  · cases h
  · rename_i place hplace
    simp only at h
    split at h
    · rename_i copied hcopied
      cases h
      exact ⟨place, _, _, copied, hplace, rfl, rfl, copy_of_copyRefusal hcopied, rfl⟩
    · cases h

/-- The files that staging leaves when it succeeds are those of the staging directory. -/
theorem left_of_stage (h : stage tree temporary source placeholder = .ok staged) :
    (tryStage tree temporary source placeholder).2 = staged.tree := by
  rw [stage, tryStage] at h
  rw [tryStage]
  split at h
  · cases h
  · simp only at h ⊢
    split at h
    · cases h
      rfl
    · cases h

/-- The staging directory is there. -/
theorem node?_of_stage (h : stage tree temporary source placeholder = .ok staged) :
    staged.directory ≠ [] ∧ staged.tree.node? staged.directory = some .directory := by
  obtain ⟨place, name, path, copied, -, -, -, hcopy, rfl⟩ := stage_eq_ok h
  have hne : place ++ [name] ≠ [] := by simp
  refine ⟨hne, FileTree.node?_of_copy hcopy ?_⟩
  rw [FileTree.node?_insert _ hne, if_pos rfl]

/-- In a closed tree, nothing lies at or below a name that is fresh in its directory. -/
theorem not_prefix_of_freshName (hclosed : tree.IsClosed) {place : Location} {name : String}
    {length : Nat} (hname : name = freshName (tree.names place) (tree.names place).length length) :
    ∀ entry ∈ tree.nodes, ¬ place ++ [name] <+: entry.1 := by
  refine hclosed.not_prefix_of_notMem (by simp) fun entry hentry heq => ?_
  have hmem : name ∈ tree.names place :=
    FileTree.mem_names_of_mem_nodes (show (place ++ [name], entry.2) ∈ tree.nodes from heq ▸ hentry)
  rw [hname] at hmem
  exact freshName_notMem _ _ hmem

/-- A file copied into a new directory is staged there. -/
theorem isStaged_of_new {directory found : Location} {content : List UInt8} {executable : Bool}
    {path : String} {place target : List (List Char)} (hne : directory ≠ [])
    (hnew : ∀ entry ∈ tree.nodes, ¬ directory <+: entry.1) (hpath : Spells path.toList place)
    (hwalk : (tree.insert directory .directory).walk [] place = .ok directory)
    (hsource : Spells source.toList target)
    (hfound : (tree.insert directory .directory).locate source.toList =
      .ok (found, .file content executable)) :
    IsStaged tree ((tree.insert directory .directory).insert (directory ++ [placeholder])
      (.file content executable)) directory path source placeholder := by
  have hinside : directory ++ [placeholder] ≠ [] := by simp
  refine ⟨?_, hnew, ⟨content, executable, ?_, ?_⟩, ?_⟩
  · -- the copy does not lie on the way to the directory
    have hagree : ∀ front, front <+: directory → front ≠ directory ++ [placeholder] := by
      rintro front hfront rfl
      have hlength := hfront.length_le
      rw [List.length_append, List.length_singleton] at hlength
      omega
    refine FileTree.locateDirectory_of_spells hpath (FileTree.walk_of_agree ?_ hwalk ?_) ?_
    · exact fun hmem => (hpath.isName _ hmem).ne_dotDot rfl
    · intro front hfront
      rw [FileTree.node?_insert _ hinside, if_neg (hagree front hfront)]
    · rw [FileTree.node?_insert _ hinside, if_neg (hagree _ (List.prefix_refl _)),
        FileTree.node?_insert _ hne, if_pos rfl]
  · -- the new directory does not lie on the way to the source
    have haway : ¬ directory <+: found := by
      obtain ⟨pieces, -, -, hnode⟩ := FileTree.locate_eq_ok_iff.1 hfound
      have hchanged : found ≠ directory := by
        rintro rfl
        rw [FileTree.node?_insert _ hne, if_pos rfl] at hnode
        cases hnode
      rw [FileTree.node?_insert _ hne, if_neg hchanged] at hnode
      have hroot : found ≠ [] := by
        rintro rfl
        simp at hnode
      exact hnew _ (FileTree.mem_nodes_of_node? hnode hroot)
    refine FileTree.read_of_locate (FileTree.locate_of_agree hsource hfound fun front hfront => ?_)
    rw [FileTree.node?_insert _ hne, if_neg]
    rintro rfl
    exact haway hfront
  · rw [insert_file_in_new hnew, below_new hnew]
  · rw [insert_file_in_new hnew, remove_new hnew]

/-- **Staging.** In a closed tree, staging a file under a name makes a directory that was not there
    before, puts a copy of the file into it and does nothing else. -/
theorem isStaged_of_stage (hclosed : tree.IsClosed) {target : List (List Char)}
    (hsource : Spells source.toList target) (hplaceholder : IsName isSeparator placeholder.toList)
    (h : stage tree temporary source placeholder = .ok staged) :
    IsStaged tree staged.tree staged.directory staged.path source placeholder := by
  obtain ⟨place, name, path, copied, hplace, hname, hpath, hcopy, rfl⟩ := stage_eq_ok h
  have hnew := not_prefix_of_freshName hclosed hname
  -- where the path of the directory leads, and where the copy is written
  have hisName : IsName isSeparator name.toList := hname ▸ isName_freshName _ _ _
  obtain ⟨habs, hfollow⟩ := FileTree.follow_of_locate (FileTree.locateDirectory_eq_ok_iff.1 hplace)
  have hspells : Spells path (place.map String.toList ++ [name.toList]) := by
    rw [hpath, ← hfollow, ← follow_of_isName hisName]
    exact spells_join habs (isAbsolute_of_isName hisName)
  obtain ⟨found, content, executable, location, hfound, hlocation, rfl⟩ := FileTree.copy_eq_ok hcopy
  obtain ⟨hwalk, rfl⟩ := FileTree.locateForWriting_of_spells (hspells.join_name hplaceholder) hlocation
  -- on its way to the copy, the walk passes through the directory
  rw [FileTree.walk_append] at hwalk
  obtain ⟨next, hwalk, -⟩ := ok_of_bind hwalk
  obtain rfl := FileTree.eq_of_walk_names hspells.isName hwalk
  have hdirectory : (place.map String.toList ++ [name.toList]).map String.ofList =
      place ++ [name] := by simp [Function.comp_def]
  rw [hdirectory] at hwalk
  rw [List.map_append, hdirectory]
  have hpathText : Spells (String.ofList path).toList (place.map String.toList ++ [name.toList]) := by
    rwa [String.toList_ofList]
  simpa using isStaged_of_new (by simp) hnew hpathText hwalk hsource hfound

end ImageBuild.Archive
