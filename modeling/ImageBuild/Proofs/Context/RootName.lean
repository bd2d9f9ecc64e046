import ImageBuild.Proofs.Context.Containment
import ImageBuild.Proofs.Context.DriveContainment

namespace ImageBuild.Context

open ImageBuild.Path

/-!
# Empty names — which Dockerfiles are the context root itself

A relative spec keeps its own text as its name, and an absolute one gets the path from the context
root.  That is empty when the two are at the same location (`pathTo_eq_nil_iff_of_posix`,
`pathTo_eq_nil_iff_of_atDrive`).  So a name is empty in two cases (`name_eq_empty_iff`): when the
spec has no text, and when it is an absolute path to the location of the root.
-/

variable {place : Place} {contextRoot spec : String}

/-- A spec names the context root itself: it has no text, a mark of long paths apart, or it is an
    absolute path to the location of the root.  Letter case does not count by Windows rules. -/
inductive NamesRoot (place : Place) (contextRoot spec : String) : Prop
  | empty (h : dropLongPathMark place.platform spec.toList = [])
  | posix (hposix : place.platform = .posix) (habs : Posix.isAbsolute spec.toList = true)
    (hsame : specLocation place contextRoot spec = rootLocation place contextRoot)
  | drive (hwindows : place.platform = .windows) {letter : Char}
    (hspec : Windows.AtDrive letter (unmarked spec))
    (hsame : Text.lower (driveRootLocation contextRoot).trimmed =
      Text.lower (driveSpecLocation contextRoot spec).trimmed)

/-- The location of a spec is known: by posix rules always, and by Windows rules against a root at a
    drive, when the spec is at a drive as well or relative. -/
inductive IsPlaced (place : Place) (contextRoot spec : String) : Prop
  | posix (hposix : place.platform = .posix) (hcwd : Posix.isAbsolute place.cwd.toList = true)
  | drive (hwindows : place.platform = .windows) {letter other : Char}
    (hroot : Windows.AtDrive letter (unmarked contextRoot))
    (hspec : Windows.AtDrive other (unmarked spec))
  | relative (hwindows : place.platform = .windows) {letter : Char}
    (hroot : Windows.AtDrive letter (unmarked contextRoot))
    (hspec : Windows.isAbsolute (unmarked spec) = false)

/-- By posix rules, a spec without text is an empty one. -/
theorem namesRoot_iff_of_posix (hposix : place.platform = .posix) :
    NamesRoot place contextRoot spec ↔ spec.toList = [] ∨ Posix.isAbsolute spec.toList = true ∧
      specLocation place contextRoot spec = rootLocation place contextRoot := by
  constructor
  · intro h
    cases h with
    | empty h =>
      rw [hposix, dropLongPathMark_posix] at h
      exact .inl h
    | posix _ habs hsame => exact .inr ⟨habs, hsame⟩
    | drive hwindows => cases hposix.symm.trans hwindows
  · rintro (h | ⟨habs, hsame⟩)
    · exact .empty (by rwa [hposix])
    · exact .posix hposix habs hsame

/-- By Windows rules, a spec without text may be the mark of long paths. -/
theorem namesRoot_iff_of_windows (hwindows : place.platform = .windows) :
    NamesRoot place contextRoot spec ↔ unmarked spec = [] ∨
      (∃ letter, Windows.AtDrive letter (unmarked spec)) ∧
        Text.lower (driveRootLocation contextRoot).trimmed =
          Text.lower (driveSpecLocation contextRoot spec).trimmed := by
  constructor
  · intro h
    cases h with
    | empty h =>
      rw [hwindows] at h
      exact .inl h
    | posix hposix => cases hposix.symm.trans hwindows
    | drive _ hspec hsame => exact .inr ⟨⟨_, hspec⟩, hsame⟩
  · rintro (h | ⟨⟨letter, hspec⟩, hsame⟩)
    · exact .empty (by rwa [hwindows])
    · exact .drive hwindows hspec hsame

/-! ### Names and paths -/

/-- The name of a Dockerfile is empty when the path to it stays, and that path or the relative spec
    is empty. -/
theorem name_eq_empty_iff_path (place : Place) (contextRoot spec : String) :
    (resolve place spec contextRoot).contextRelativePath = some "" ↔
      escapes place.platform (pathTo place contextRoot spec) = false ∧
        (if place.platform.isAbsolute (dropLongPathMark place.platform spec.toList) then
          pathTo place contextRoot spec
        else dropLongPathMark place.platform spec.toList) = [] := by
  have hempty : ∀ p : List Char, String.ofList p = "" ↔ p = [] := by
    intro p
    rw [← String.toList_inj, String.toList_ofList]
    rfl
  have hrelocated : ∀ source, String.ofList (relocatedName source) ≠ "" := by
    intro source h
    have hstem : relocatedStem = [] := (List.append_eq_nil_iff.1 ((hempty _).1 h)).1
    exact absurd hstem (by decide)
  rw [resolve]
  dsimp only
  rw [← pathTo]
  split
  · rename_i hescapes
    simp [hrelocated, hescapes]
  · rename_i hescapes
    simp [hempty, toForwardSlashes_eq_nil_iff, hescapes]

/-- An absolute spec has an empty name when the path to it is empty. -/
theorem name_eq_empty_iff_of_absolute
    (habs : place.platform.isAbsolute (dropLongPathMark place.platform spec.toList) = true) :
    (resolve place spec contextRoot).contextRelativePath = some "" ↔
      pathTo place contextRoot spec = [] := by
  rw [name_eq_empty_iff_path, if_pos habs, and_iff_right_iff_imp]
  intro hpath
  rw [hpath, escapes_nil]

/-- A relative spec has an empty name when it has no text, where the path to the root itself is
    empty. -/
theorem name_eq_empty_iff_of_relative
    (habs : place.platform.isAbsolute (dropLongPathMark place.platform spec.toList) = false)
    (hpath : dropLongPathMark place.platform spec.toList = [] →
      pathTo place contextRoot spec = []) :
    (resolve place spec contextRoot).contextRelativePath = some "" ↔
      dropLongPathMark place.platform spec.toList = [] := by
  rw [name_eq_empty_iff_path, habs, if_neg Bool.false_ne_true, and_iff_right_iff_imp]
  intro hempty
  rw [hpath hempty, escapes_nil]

/-! ### Posix paths -/

/-- The path between two locations is empty when they are the same. -/
theorem join_between_eq_nil_iff {source target : List (List Char)}
    (htarget : ∀ name ∈ target, IsName Posix.isSeparator name) :
    Text.join '/' (Posix.between source target) = [] ↔ target = source := by
  constructor
  · intro hjoin
    by_cases hinside : source <+: target
    · rw [Posix.between_of_inside hinside] at hjoin
      have hrest : target.drop source.length = [] := by
        by_contra hne
        exact Text.join_ne_nil hne
          (fun name hname => (htarget name (List.mem_of_mem_drop hname)).ne_nil) hjoin
      exact (hinside.eq_of_length_le (List.drop_eq_nil_iff.1 hrest)).symm
    · obtain ⟨rest, hup⟩ := Posix.between_of_outside hinside
      obtain ⟨ending, hcons, -⟩ := Text.join_cons_eq_append '/' dotDot rest
      rw [hup, hcons] at hjoin
      cases hjoin
  · rintro rfl
    rw [Posix.between_of_inside (List.prefix_refl _), List.drop_length]
    rfl

/-- By posix rules, the path to a Dockerfile is empty when it is at the location of the root. -/
theorem pathTo_eq_nil_iff_of_posix (hposix : place.platform = .posix)
    (hcwd : Posix.isAbsolute place.cwd.toList = true) :
    pathTo place contextRoot spec = [] ↔
      specLocation place contextRoot spec = rootLocation place contextRoot := by
  have htarget := spells_locationText hposix hcwd contextRoot spec
  rw [pathTo_eq_join hposix hcwd, join_between_eq_nil_iff htarget.isName]

/-! ### Paths at drives -/

section Drive

variable (hwindows : place.platform = .windows) {letter : Char}
  (hroot : Windows.AtDrive letter (unmarked contextRoot))

include hwindows hroot

/-- The path to a spec at a drive is empty when its location has the small letters of the root. -/
theorem pathTo_eq_nil_iff_of_atDrive {other : Char}
    (hspec : Windows.AtDrive other (unmarked spec)) :
    pathTo place contextRoot spec = [] ↔
      Text.lower (driveRootLocation contextRoot).trimmed =
        Text.lower (driveSpecLocation contextRoot spec).trimmed := by
  rw [pathTo_windows hwindows, rootOf_atDrive hwindows hroot, locate_of_atDrive contextRoot hspec]
  exact Windows.relative_eq_nil_iff (isNamed_driveRootLocation hroot).1
    (isNamed_driveSpecLocation contextRoot hspec).1 _ _ _

/-- The path from a root at a drive to a spec without text is empty. -/
theorem pathTo_eq_nil_of_empty (hspec : unmarked spec = []) : pathTo place contextRoot spec = [] := by
  obtain ⟨hnamed, -⟩ := isNamed_driveRootLocation hroot
  rw [pathTo_windows hwindows, rootOf_atDrive hwindows hroot, hspec, locate_windows,
    if_neg (by simp [Windows.isAbsolute]), Windows.join_text_nil hnamed]
  exact (Windows.relative_eq_nil_iff hnamed hnamed _ _ _).2 rfl

end Drive

/-! ### Empty names -/

/-- **Empty names.** Where the location of a spec is known, the Dockerfile gets an empty name exactly
    when the spec names the context root itself. -/
theorem name_eq_empty_iff (h : IsPlaced place contextRoot spec) :
    (resolve place spec contextRoot).contextRelativePath = some "" ↔
      NamesRoot place contextRoot spec := by
  cases h with
  | posix hposix hcwd =>
    rw [namesRoot_iff_of_posix hposix]
    by_cases habs : Posix.isAbsolute spec.toList = true
    · have hne : spec.toList ≠ [] := by
        intro hempty
        rw [hempty] at habs
        cases habs
      rw [name_eq_empty_iff_of_absolute (by rwa [hposix]), pathTo_eq_nil_iff_of_posix hposix hcwd]
      simp [habs, hne]
    · have habs : Posix.isAbsolute spec.toList = false := by simpa using habs
      rw [name_eq_empty_iff_of_relative (by rwa [hposix])]
      · simp [hposix, habs]
      · -- a spec without text leads to where the root is
        intro hempty
        rw [hposix, dropLongPathMark_posix] at hempty
        rw [pathTo_eq_nil_iff_of_posix hposix hcwd, specLocation, hempty]
        rfl
  | drive hwindows hroot hspec =>
    have hne : unmarked spec ≠ [] := by
      intro hempty
      rw [hempty] at hspec
      cases hspec
    rw [namesRoot_iff_of_windows hwindows,
      name_eq_empty_iff_of_absolute (by rw [hwindows]; exact hspec.isAbsolute),
      pathTo_eq_nil_iff_of_atDrive hwindows hroot hspec]
    exact ⟨fun hsame => .inr ⟨⟨_, hspec⟩, hsame⟩, fun h => (h.resolve_left hne).2⟩
  | relative hwindows hroot hspec =>
    have hnot : ¬ ∃ letter, Windows.AtDrive letter (unmarked spec) := by
      rintro ⟨letter, hdrive⟩
      rw [hdrive.isAbsolute] at hspec
      cases hspec
    rw [namesRoot_iff_of_windows hwindows,
      name_eq_empty_iff_of_relative (by rw [hwindows]; exact hspec)]
    · rw [hwindows]
      exact ⟨.inl, fun h => h.resolve_right fun hdrive => hnot hdrive.1⟩
    · intro hempty
      rw [hwindows] at hempty
      exact pathTo_eq_nil_of_empty hwindows hroot hempty

end ImageBuild.Context
