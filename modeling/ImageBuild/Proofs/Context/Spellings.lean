import ImageBuild.Proofs.Context.Containment

namespace ImageBuild.Context

open ImageBuild.Path ImageBuild.Path.Posix

/-!
# Spellings — by posix rules, resolution depends on locations and not on how they are spelled

The text that stands for a Dockerfile outside the context is made from its location, and from whether
its spec ends in a slash (`resolve_of_outside`).  Inside the context, only the location of the root
is used.  So nothing of the spelling of the root is left in a resolution, not even a slash at its
end, and of the spelling of an outside Dockerfile nothing but a last slash.
-/

variable {place : Place}

/-- Joining a relative path to an absolute one leaves a slash at the end where the path has one. -/
theorem endsInSlash_append_slash (root : List Char) {p : List Char} (hne : p ≠ []) :
    endsInSlash (root ++ '/' :: p) = endsInSlash p := by
  obtain ⟨c, rest, rfl⟩ := List.exists_cons_of_ne_nil hne
  simp [endsInSlash, List.getLast?_append, List.getLast?_cons]

/-- A Dockerfile with a name is located by the text of its location, with a last slash where its
    spec has one; how the root is spelled does not matter. -/
theorem locate_eq_textOf {root : List Char} {location : List (List Char)}
    (hroot : Spells root location) {spec : List Char} (hne : spec ≠ []) :
    locate .posix root spec = textOf (follow location spec) (endsInSlash spec) := by
  rw [locate_posix]
  by_cases habs : isAbsolute spec = true
  · rw [if_pos habs, normalize_eq_textOf habs, ← names_eq_follow habs, names_eq_follow habs location]
  · have habs : isAbsolute spec = false := by simpa using habs
    rw [habs, if_neg Bool.false_ne_true, join_of_ne_nil hroot.isAbsolute hne, normalize_eq_textOf (isAbsolute_append hroot.isAbsolute _),
      follow_append hroot.isAbsolute habs, hroot.follow_eq, endsInSlash_append_slash root hne]

/-- A spec without a name leads to the context root. -/
theorem specLocation_empty (contextRoot : String) :
    specLocation place contextRoot "" = rootLocation place contextRoot := by
  simp [specLocation, follow, Text.split, Posix.isAbsolute]

/-- A Dockerfile outside the context is reported by the text of its location, with a last slash
    where its spec has one. -/
theorem resolve_of_outside (hposix : place.platform = .posix)
    (hcwd : isAbsolute place.cwd.toList = true) {contextRoot spec : String}
    (houtside : ¬ rootLocation place contextRoot <+: specLocation place contextRoot spec) :
    let source := textOf (specLocation place contextRoot spec) (endsInSlash spec.toList)
    resolve place spec contextRoot =
      ⟨some (String.ofList (relocatedName source)), some (String.ofList source)⟩ := by
  -- a spec without a name leads to the root itself, which is inside
  have hne : spec.toList ≠ [] := by
    intro hempty
    rw [String.toList_eq_nil_iff] at hempty
    rw [hempty, specLocation_empty] at houtside
    exact houtside (List.prefix_refl _)
  have htext : locationText place contextRoot spec =
      textOf (specLocation place contextRoot spec) (endsInSlash spec.toList) := by
    rw [locationText, hposix]
    exact locate_eq_textOf (spells_rootOf hposix hcwd contextRoot) hne
  rw [resolve_posix hposix hcwd, if_neg houtside, htext]

/-- Two roots at the same location resolve every spec alike. -/
theorem resolve_congr_root (hposix : place.platform = .posix)
    (hcwd : isAbsolute place.cwd.toList = true) {root root' : String}
    (h : rootLocation place root = rootLocation place root') (spec : String) :
    resolve place spec root = resolve place spec root' := by
  have hspec : specLocation place root spec = specLocation place root' spec := by
    rw [specLocation, h, ← specLocation]
  by_cases hinside : rootLocation place root <+: specLocation place root spec
  · rw [resolve_posix hposix hcwd, resolve_posix hposix hcwd, ← hspec, ← h, if_pos hinside,
      if_pos hinside]
  · have hinside' : ¬ rootLocation place root' <+: specLocation place root' spec := by
      rwa [← hspec, ← h]
    rw [resolve_of_outside hposix hcwd hinside, resolve_of_outside hposix hcwd hinside', hspec]

/-- **Locations, not spellings.** By posix rules, context roots at the same location resolve every
    Dockerfile alike.  Specs of the same location outside the context, both with or both without a
    slash at the end, are resolved alike: to the same name in the context and the same source. -/
theorem posix_resolution_of_locations (place : Place) (hposix : place.platform = .posix)
    (hcwd : isAbsolute place.cwd.toList = true) :
    (∀ root root', rootLocation place root = rootLocation place root' →
      ∀ spec, resolve? place spec root = resolve? place spec root') ∧
    ∀ root spec spec', specLocation place root spec = specLocation place root spec' →
      ¬ rootLocation place root <+: specLocation place root spec →
      endsInSlash spec.toList = endsInSlash spec'.toList →
      resolve? place (some spec) root = resolve? place (some spec') root := by
  constructor
  · intro root root' hroot spec
    cases spec with
    | none => rfl
    | some spec => exact resolve_congr_root hposix hcwd hroot spec
  · intro root spec spec' hspec houtside hslash
    have houtside' : ¬ rootLocation place root <+: specLocation place root spec' := hspec ▸ houtside
    simp only [resolve?]
    rw [resolve_of_outside hposix hcwd houtside, resolve_of_outside hposix hcwd houtside', hspec,
      hslash]

/-- A root with a slash at its end, a relative one and one with `..` resolve alike, and so do a
    relative and an absolute spec of a Dockerfile beside them. -/
theorem build_root_and_sibling_spellings :
    isAbsolute "/work".toList = true ∧
      resolve? ⟨.posix, "/work", "/"⟩ (some "../D") "build/" =
        resolve? ⟨.posix, "/work", "/"⟩ (some "../D") "/work//x/.././build" ∧
      resolve? ⟨.posix, "/work", "/"⟩ (some "x/../../D") "build" =
        resolve? ⟨.posix, "/work", "/"⟩ (some "/work/.//D") "build" := by
  have habs : isAbsolute "/work".toList = true := by decide
  obtain ⟨hroots, hspecs⟩ := posix_resolution_of_locations ⟨.posix, "/work", "/"⟩ rfl habs
  refine ⟨habs, hroots _ _ (by decide) _, hspecs _ _ _ (by decide) (by decide) (by decide)⟩

end ImageBuild.Context
