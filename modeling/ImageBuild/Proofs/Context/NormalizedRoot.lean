import ImageBuild.Proofs.Context.Containment
import ImageBuild.Proofs.Path.Anchored

namespace ImageBuild.Context

open ImageBuild.Path

/-!
# Normalized roots — resolving against a context root that was normalized before

A build and the command that shows a resolution normalize the context root first and resolve against
the result.  Normalizing it once more changes nothing (`rootOf_rootOf`), so that both ways find the
same Dockerfile.  What normalizing takes away is the mark of long Windows paths: the source of a
relocated Dockerfile has it only when resolution sees the root as it was given
(`resolve_normalized_root`).
-/

variable {place : Place}

/-- A Windows root that is read as it was normalized. -/
structure ReadsBack (place : Place) (contextRoot : String) : Prop where
  /-- What a reserved name keeps from being normalized behind the working directory is written without
      redundant parts. -/
  kept : Windows.isAbsolute (unmarked contextRoot) = false →
    Windows.holdsReserved (Windows.joined [place.cwd.toList, unmarked contextRoot]) = true →
    Windows.normalize (rootOf place contextRoot.toList) = rootOf place contextRoot.toList
  /-- It is not marked as long once it is normalized. -/
  unmarked : longPathMark.isPrefixOf (rootOf place contextRoot.toList) = false
  /-- A device name space has a name behind it, and not one that would be read as its device. -/
  named : ∀ rest, rootOf place contextRoot.toList = '\\' :: '\\' :: '.' :: '\\' :: rest →
    rest ≠ [] ∧ Windows.reservedDevice? rest = none

/-! ### Roots are normalized absolute paths -/

/-- A context root is a normalized absolute path, or an absolute path that a reserved name keeps from
    being normalized. -/
theorem rootOf_cases (hcwd : place.platform.isAbsolute place.cwd.toList = true)
    (contextRoot : String) :
    (∃ p, place.platform.isAbsolute p = true ∧
      rootOf place contextRoot.toList = place.platform.normalize p) ∨
    (place.platform = .windows ∧ Windows.isAbsolute (unmarked contextRoot) = false ∧
      Windows.holdsReserved (Windows.joined [place.cwd.toList, unmarked contextRoot]) = true ∧
      Windows.isAbsolute (rootOf place contextRoot.toList) = true) := by
  cases hplatform : place.platform with
  | posix =>
    rw [hplatform] at hcwd
    refine .inl ?_
    rw [rootOf_posix hplatform]
    split
    · rename_i habs
      exact ⟨_, habs, rfl⟩
    · by_cases hroot : contextRoot.toList = []
      · rw [hroot]
        exact ⟨_, hcwd, Posix.join_nil hcwd⟩
      · exact ⟨_, Posix.isAbsolute_append hcwd _, Posix.join_of_ne_nil hcwd hroot⟩
  | windows =>
    rw [hplatform] at hcwd
    have hjoined := Windows.isAbsolute_joined_of_isAbsolute hcwd (unmarked contextRoot)
    rw [rootOf_windows hplatform]
    split
    · rename_i habs
      exact .inl ⟨_, habs, rfl⟩
    · rename_i habs
      rw [Windows.join]
      split
      · rename_i hreserved
        exact .inr ⟨rfl, by simpa using habs, hreserved, Windows.isAbsolute_toBackslashes hjoined⟩
      · exact .inl ⟨_, hjoined, rfl⟩

/-- A normalized absolute path is absolute. -/
theorem isAbsolute_normalize {platform : Platform} {p : List Char}
    (hp : platform.isAbsolute p = true) : platform.isAbsolute (platform.normalize p) = true := by
  cases platform with
  | posix => exact (Posix.spells_normalize hp).isAbsolute
  | windows => exact Windows.isAbsolute_normalize hp

/-- A context root is absolute. -/
theorem isAbsolute_rootOf (hcwd : place.platform.isAbsolute place.cwd.toList = true)
    (contextRoot : String) : place.platform.isAbsolute (rootOf place contextRoot.toList) = true := by
  rcases rootOf_cases hcwd contextRoot with ⟨p, hp, hroot⟩ | ⟨hplatform, -, -, habs⟩
  · rw [hroot]
    exact isAbsolute_normalize hp
  · rw [hplatform]
    exact habs

/-- Normalizing a Windows root that is read as it was normalized changes nothing. -/
theorem normalize_rootOf (hwindows : place.platform = .windows)
    (hcwd : Windows.isAbsolute place.cwd.toList = true) {contextRoot : String}
    (h : ReadsBack place contextRoot) :
    Windows.normalize (rootOf place contextRoot.toList) = rootOf place contextRoot.toList := by
  rcases rootOf_cases (by rwa [hwindows]) contextRoot with ⟨p, hp, hroot⟩ | ⟨-, hrelative, hkept, -⟩
  · rw [hwindows] at hp hroot
    have hmarked := h.unmarked
    have hnamed := h.named
    rw [hroot] at hmarked hnamed ⊢
    refine Windows.normalize_normalize hp (fun rest htext => ?_) hnamed
    change Windows.normalize p = _ at htext
    change longPathMark.isPrefixOf (Windows.normalize p) = false at hmarked
    rw [htext] at hmarked
    exact absurd hmarked (by simp [longPathMark])
  · exact h.kept hrelative hkept

/-- Normalizing a normalized context root changes nothing. -/
theorem rootOf_rootOf (hcwd : place.platform.isAbsolute place.cwd.toList = true)
    (contextRoot : String) (hback : place.platform = .windows → ReadsBack place contextRoot) :
    isLongPath place.platform (rootOf place contextRoot.toList) = false ∧
      rootOf place (rootOf place contextRoot.toList) = rootOf place contextRoot.toList := by
  have hunmarked : isLongPath place.platform (rootOf place contextRoot.toList) = false := by
    cases hplatform : place.platform with
    | posix => rfl
    | windows => simp [isLongPath, (hback hplatform).unmarked]
  refine ⟨hunmarked, ?_⟩
  have habs := isAbsolute_rootOf hcwd contextRoot
  rw [rootOf, dropLongPathMark, hunmarked, if_neg Bool.false_ne_true, if_pos habs]
  cases hplatform : place.platform with
  | posix =>
    rcases rootOf_cases hcwd contextRoot with ⟨p, hp, hroot⟩ | ⟨hwindows, -⟩
    · rw [hplatform] at hp hroot
      rw [hroot]
      exact Posix.normalize_normalize hp
    · cases hplatform.symm.trans hwindows
  | windows =>
    rw [hplatform] at hcwd
    exact normalize_rootOf hplatform hcwd (hback hplatform)

/-! ### Resolving against a normalized root -/

/-- A source with the mark of long paths, if the context root is marked. -/
def markLike (platform : Platform) (contextRoot source : String) : String :=
  if isLongPath platform contextRoot.toList then
    String.ofList (longPathMark ++ source.toList)
  else source

/-- Resolving against a normalized root finds the same Dockerfile, but the source of a relocated one
    has lost the mark of long paths. -/
theorem resolve_normalizeRoot (hcwd : place.platform.isAbsolute place.cwd.toList = true)
    (contextRoot : String) (hback : place.platform = .windows → ReadsBack place contextRoot)
    (spec : Option String) :
    let direct := resolve? place spec contextRoot
    let normalized := resolve? place spec (normalizeRoot place contextRoot)
    normalized.contextRelativePath = direct.contextRelativePath ∧
      direct.relocationSource =
        normalized.relocationSource.map (markLike place.platform contextRoot) := by
  cases spec with
  | none => exact ⟨rfl, rfl⟩
  | some spec =>
    obtain ⟨hunmarked, hroot⟩ := rootOf_rootOf hcwd contextRoot hback
    simp only [resolve?, resolve, normalizeRoot, String.toList_ofList, hroot, hunmarked]
    split
    · refine ⟨rfl, ?_⟩
      simp only [Option.map_some, markLike, Bool.false_eq_true, if_false, String.toList_ofList]
      split <;> rfl
    · exact ⟨rfl, rfl⟩

/-- A mark is never there already. -/
theorem markLike_ne {platform : Platform} {contextRoot : String}
    (hmarked : isLongPath platform contextRoot.toList = true) (source : String) :
    markLike platform contextRoot source ≠ source := by
  intro heq
  have hlength := congrArg (fun s : String => s.toList.length) heq
  simp only [markLike, hmarked, if_true, String.toList_ofList, List.length_append] at hlength
  simp [longPathMark] at hlength

/-- Without a mark there is none to give back. -/
theorem markLike_of_unmarked {platform : Platform} {contextRoot : String}
    (hunmarked : isLongPath platform contextRoot.toList = false) :
    markLike platform contextRoot = id := by
  funext source
  simp [markLike, hunmarked]

/-- **Resolving against a normalized root.** A root that was normalized before leads to the same name
    in the context and the same source as the root itself, but for the mark of long Windows paths,
    which the source has lost.  So both resolutions are equal exactly when no Dockerfile is
    relocated from a root that is marked.  By Windows rules, this holds of every root that is read
    as it was normalized. -/
theorem resolve_normalized_root (place : Place)
    (hcwd : place.platform.isAbsolute place.cwd.toList = true) (contextRoot : String)
    (hback : place.platform = .windows → ReadsBack place contextRoot) (spec : Option String) :
    let direct := resolve? place spec contextRoot
    let normalized := resolve? place spec (normalizeRoot place contextRoot)
    normalized.contextRelativePath = direct.contextRelativePath ∧
      direct.relocationSource =
        normalized.relocationSource.map (markLike place.platform contextRoot) ∧
      (normalized = direct ↔
        (isLongPath place.platform contextRoot.toList = true → direct.relocationSource = none)) := by
  intro direct normalized
  obtain ⟨hname, hsource⟩ : normalized.contextRelativePath = direct.contextRelativePath ∧
      direct.relocationSource =
        normalized.relocationSource.map (markLike place.platform contextRoot) :=
    resolve_normalizeRoot hcwd contextRoot hback spec
  refine ⟨hname, hsource, fun heq hmarked => ?_, fun hinside => ?_⟩
  · -- a source that is there has got a mark that the other one lacks
    cases hdirect : direct.relocationSource with
    | none => rfl
    | some source =>
      rw [show normalized.relocationSource = direct.relocationSource from heq ▸ rfl,
        hdirect] at hsource
      exact absurd (Option.some.inj hsource).symm (markLike_ne hmarked source)
  · have hsame : normalized.relocationSource = direct.relocationSource := by
      cases hmarked : isLongPath place.platform contextRoot.toList with
      | false => simpa [markLike_of_unmarked hmarked] using hsource.symm
      | true =>
        rw [hinside hmarked] at hsource ⊢
        exact Option.map_eq_none_iff.1 hsource.symm
    calc normalized = ⟨normalized.contextRelativePath, normalized.relocationSource⟩ := rfl
      _ = ⟨direct.contextRelativePath, direct.relocationSource⟩ := by rw [hsame, hname]
      _ = direct := rfl

/-- A Windows root with redundant parts resolves alike before and after it is normalized. -/
theorem redundant_windows_root_resolves_alike :
    Windows.isAbsolute "C:\\work".toList = true ∧
      ReadsBack ⟨.windows, "C:\\work", "C:\\work"⟩ "c:/x//../ctx/" ∧
      resolve? ⟨.windows, "C:\\work", "C:\\work"⟩ (some "../Dockerfile")
          (normalizeRoot ⟨.windows, "C:\\work", "C:\\work"⟩ "c:/x//../ctx/") =
        resolve? ⟨.windows, "C:\\work", "C:\\work"⟩ (some "../Dockerfile") "c:/x//../ctx/" := by
  have hcwd : Windows.isAbsolute "C:\\work".toList = true := by decide
  have hroot : rootOf ⟨.windows, "C:\\work", "C:\\work"⟩ "c:/x//../ctx/".toList =
      "c:\\ctx\\".toList := by decide
  have hback : ReadsBack ⟨.windows, "C:\\work", "C:\\work"⟩ "c:/x//../ctx/" := by
    refine ⟨fun hrelative => absurd hrelative (by decide), by rw [hroot]; decide, fun rest h => ?_⟩
    rw [hroot] at h
    exact absurd (congrArg List.head? h) (by simp)
  obtain ⟨-, -, hiff⟩ := resolve_normalized_root ⟨.windows, "C:\\work", "C:\\work"⟩ hcwd
    "c:/x//../ctx/" (fun _ => hback) (some "../Dockerfile")
  exact ⟨hcwd, hback, hiff.2 fun hmarked => absurd hmarked (by decide)⟩

/-- A Dockerfile beside a marked Windows root has its mark when it is resolved against that root,
    and has none when it is resolved against the normalized root. -/
theorem mark_lost_by_normalizing :
    (resolve? ⟨.windows, "C:\\work", "C:\\work"⟩ (some "..\\Dockerfile")
        "\\\\?\\C:\\ctx").relocationSource = some "\\\\?\\C:\\Dockerfile" ∧
      (resolve? ⟨.windows, "C:\\work", "C:\\work"⟩ (some "..\\Dockerfile")
        (normalizeRoot ⟨.windows, "C:\\work", "C:\\work"⟩
          "\\\\?\\C:\\ctx")).relocationSource = some "C:\\Dockerfile" := by
  constructor
  · rfl
  · rfl

end ImageBuild.Context
