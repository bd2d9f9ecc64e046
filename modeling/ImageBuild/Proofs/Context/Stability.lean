import ImageBuild.Proofs.Context.Naming
import ImageBuild.Proofs.Context.Spellings

namespace ImageBuild.Context

open ImageBuild.Path ImageBuild.Path.Posix

/-!
# Stability — resolving the name of a Dockerfile once more, by posix rules

Whatever a Dockerfile was asked for by, its name is a relative path that stays in the context.  Such
a path is resolved to itself (`resolve_of_stays`): it is either the spec as it was given, or names
below the root (`resolve_names`), among them the one name of a relocated Dockerfile.
-/

variable {place : Place}

/-- A relative path that stays in the context is its own name. -/
theorem resolve_of_stays (hposix : place.platform = .posix)
    (hcwd : isAbsolute place.cwd.toList = true) {contextRoot name : String}
    (hrelative : isAbsolute name.toList = false)
    (hinside : rootLocation place contextRoot <+: specLocation place contextRoot name) :
    resolve place name contextRoot = ⟨some name, none⟩ := by
  rw [resolve_posix hposix hcwd, if_pos hinside, hrelative, if_neg Bool.false_ne_true]

/-- Names below the context root are resolved to themselves. -/
theorem resolve_names (hposix : place.platform = .posix)
    (hcwd : isAbsolute place.cwd.toList = true) (contextRoot : String) {names : List (List Char)}
    (hnames : ∀ name ∈ names, IsName Posix.isSeparator name) :
    resolve place (String.ofList (Text.join '/' names)) contextRoot =
      ⟨some (String.ofList (Text.join '/' names)), none⟩ := by
  refine resolve_of_stays hposix hcwd ?_ ?_
  · rw [String.toList_ofList]
    exact isAbsolute_join hnames
  · rw [specLocation, String.toList_ofList, follow_join hnames]
    exact List.prefix_append _ names

/-- The name of a relocated Dockerfile is resolved to itself. -/
theorem resolve_relocatedName (hposix : place.platform = .posix)
    (hcwd : isAbsolute place.cwd.toList = true) (contextRoot : String) (source : List Char) :
    resolve place (String.ofList (relocatedName source)) contextRoot =
      ⟨some (String.ofList (relocatedName source)), none⟩ := by
  have hname : ∀ name ∈ [relocatedName source], IsName Posix.isSeparator name := by
    intro name hname
    rw [List.mem_singleton.1 hname]
    exact (isName_relocatedName source).1
  have hkept := resolve_names hposix hcwd contextRoot hname
  rwa [Text.join] at hkept

/-- A text of names has no slash at either end. -/
theorem slash_notMem_ends_join {names : List (List Char)}
    (hnames : ∀ name ∈ names, IsName Posix.isSeparator name) :
    (Text.join '/' names).head? ≠ some '/' ∧ (Text.join '/' names).getLast? ≠ some '/' := by
  constructor
  · simpa [Posix.isAbsolute] using isAbsolute_join hnames
  · -- after a last slash there would be an empty piece, and the last piece is a name
    intro hlast
    have hempty : (Text.split Posix.isSeparator (Text.join '/' names)).getLast? = some [] :=
      Text.getLast?_split_of_getLast? rfl hlast
    by_cases hne : names = []
    · rw [hne] at hlast
      cases hlast
    · rw [Text.split_join rfl hne fun name hname => (hnames name hname).free] at hempty
      exact (hnames [] (List.mem_of_getLast? hempty)).ne_nil rfl

/-- An absolute spec inside the context gets the names by which it is below the root. -/
theorem resolve_of_absolute (hposix : place.platform = .posix)
    (hcwd : isAbsolute place.cwd.toList = true) {contextRoot spec : String}
    (habs : isAbsolute spec.toList = true)
    (hinside : rootLocation place contextRoot <+: specLocation place contextRoot spec) :
    ∃ names, specLocation place contextRoot spec = rootLocation place contextRoot ++ names ∧
      (∀ name ∈ names, IsName Posix.isSeparator name) ∧
      resolve place spec contextRoot = ⟨some (String.ofList (Text.join '/' names)), none⟩ := by
  have htarget := spells_locationText hposix hcwd contextRoot spec
  rw [resolve_posix hposix hcwd, if_pos hinside, if_pos habs, between_of_inside hinside]
  exact ⟨_, (List.prefix_iff_eq_append.1 hinside).symm,
    fun name hname => htarget.isName name (List.mem_of_mem_drop hname), rfl⟩

/-- The name of a Dockerfile inside the context leads to it from the normalized root. -/
theorem spells_join_of_resolve (hposix : place.platform = .posix)
    (hcwd : isAbsolute place.cwd.toList = true) {contextRoot spec name : String}
    (hinside : rootLocation place contextRoot <+: specLocation place contextRoot spec)
    (hname : (resolve place spec contextRoot).contextRelativePath = some name) :
    Spells (join [rootOf place contextRoot.toList, name.toList])
      (specLocation place contextRoot spec) := by
  obtain ⟨other, hresolve, hjoin⟩ := resolve_of_inside hposix hcwd hinside
  -- the normalized root is at the same location, and so resolves alike
  rw [resolve_congr_root hposix hcwd (rootLocation_normalizeRoot hposix hcwd contextRoot)]
    at hresolve
  rw [hresolve, Option.some.injEq] at hname
  rwa [normalizeRoot, String.toList_ofList, hname] at hjoin

/-- **Rejoining and stability.** By posix rules, every Dockerfile that is asked for gets a name, and
    resolving this name against the same context root gives it back, without a source.  The name of
    a Dockerfile inside the context leads to it from the root.  It is the spec where that is
    relative; otherwise it is the names by which the Dockerfile is below the root, so that the root
    itself has the name without names. -/
theorem posix_name_is_stable (place : Place) (hposix : place.platform = .posix)
    (hcwd : isAbsolute place.cwd.toList = true) (spec contextRoot : String) :
    let root := rootLocation place contextRoot
    let target := specLocation place contextRoot spec
    let found := resolve? place (some spec) contextRoot
    ∃ name, found.contextRelativePath = some name ∧
      resolve? place (some name) contextRoot = ⟨some name, none⟩ ∧
      (found.relocationSource = none →
        Spells (join [rootOf place contextRoot.toList, name.toList]) target ∧
        (isAbsolute spec.toList = false → name = spec) ∧
        (isAbsolute spec.toList = true → ∃ names,
          name.toList = Text.join '/' names ∧ target = root ++ names ∧
          (∀ n ∈ names, IsName Posix.isSeparator n) ∧
          name.toList.head? ≠ some '/' ∧ name.toList.getLast? ≠ some '/')) := by
  intro root target found
  by_cases hinside : root <+: target
  · have hjoin : ∀ name, found.contextRelativePath = some name →
        Spells (join [rootOf place contextRoot.toList, name.toList]) target :=
      fun name hname => spells_join_of_resolve hposix hcwd hinside hname
    by_cases habs : isAbsolute spec.toList = true
    · obtain ⟨names, htarget, hnames, hresolve⟩ := resolve_of_absolute hposix hcwd habs hinside
      have hname : found.contextRelativePath = some (String.ofList (Text.join '/' names)) :=
        congrArg Resolution.contextRelativePath hresolve
      refine ⟨_, hname, resolve_names hposix hcwd contextRoot hnames, fun _ =>
        ⟨hjoin _ hname, fun h => absurd habs (by simp [h]), fun _ => ⟨names, ?_⟩⟩⟩
      rw [String.toList_ofList]
      exact ⟨rfl, htarget, hnames, slash_notMem_ends_join hnames⟩
    · have habs : isAbsolute spec.toList = false := by simpa using habs
      have hresolve : found = ⟨some spec, none⟩ := resolve_of_stays hposix hcwd habs hinside
      have hname : found.contextRelativePath = some spec :=
        congrArg Resolution.contextRelativePath hresolve
      exact ⟨spec, hname, hresolve, fun _ =>
        ⟨hjoin spec hname, fun _ => rfl, fun h => absurd h (by simp [habs])⟩⟩
  · have hfound : found = _ := resolve_posix hposix hcwd contextRoot spec
    rw [if_neg hinside] at hfound
    refine ⟨_, by rw [hfound], resolve_relocatedName hposix hcwd contextRoot _, fun hsource => ?_⟩
    rw [hfound] at hsource
    cases hsource

/-- An absolute spec with redundant parts gets the names below the root, which are kept then, and a
    relative one that passes through the root's own name is kept at once. -/
theorem redundant_specs_named_and_kept :
    isAbsolute "/work".toList = true ∧
      (∃ name, (resolve? ⟨.posix, "/work", "/"⟩ (some "/work//build/x/../D/")
          "./build/").contextRelativePath = some name ∧
        resolve? ⟨.posix, "/work", "/"⟩ (some name) "./build/" = ⟨some name, none⟩) ∧
      resolve? ⟨.posix, "/work", "/"⟩ (some "../build/./D") "./build/" =
        ⟨some "../build/./D", none⟩ := by
  have habs : isAbsolute "/work".toList = true := by decide
  refine ⟨habs, ?_, ?_⟩
  · obtain ⟨name, hname, hkept, -⟩ := posix_name_is_stable ⟨.posix, "/work", "/"⟩ rfl habs
      "/work//build/x/../D/" "./build/"
    exact ⟨name, hname, hkept⟩
  · obtain ⟨name, -, hkept, hinside⟩ := posix_name_is_stable ⟨.posix, "/work", "/"⟩ rfl habs
      "../build/./D" "./build/"
    obtain ⟨-, hspec, -⟩ := hinside (by decide)
    rw [hspec (by decide)] at hkept
    exact hkept

end ImageBuild.Context
