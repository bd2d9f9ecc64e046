import ImageBuild.Proofs.Context.Containment

namespace ImageBuild.Context

open ImageBuild.Path ImageBuild.Path.Posix

/-!
# Naming — what the daemon finds under the name of a Dockerfile, by posix rules

The context root is normalized once before a Dockerfile is resolved against it, which keeps its
location (`rootLocation_normalizeRoot`).  The name of a Dockerfile inside the context, put behind the
root, leads to the Dockerfile (`resolve_of_inside`); one outside gets a name of its own, which can
neither leave a directory nor be taken for an option (`resolve_of_not_inside`).
-/

variable {place : Place}

/-- A normalized context root names the location of the root that was given. -/
theorem spells_normalizeRoot (hposix : place.platform = .posix)
    (hcwd : isAbsolute place.cwd.toList = true) (path : String) :
    Spells (normalizeRoot place path).toList (rootLocation place path) := by
  rw [normalizeRoot, String.toList_ofList]
  exact spells_rootOf hposix hcwd path

/-- Normalizing a context root keeps its location. -/
theorem rootLocation_normalizeRoot (hposix : place.platform = .posix)
    (hcwd : isAbsolute place.cwd.toList = true) (path : String) :
    rootLocation place (normalizeRoot place path) = rootLocation place path :=
  (spells_normalizeRoot hposix hcwd path).follow_eq _

/-- Normalizing a context root keeps the location of every Dockerfile. -/
theorem specLocation_normalizeRoot (hposix : place.platform = .posix)
    (hcwd : isAbsolute place.cwd.toList = true) (path spec : String) :
    specLocation place (normalizeRoot place path) spec = specLocation place path spec := by
  rw [specLocation, specLocation, rootLocation_normalizeRoot hposix hcwd]

/-! ### Inside the context -/

/-- A join of names leads down to the last of them. -/
theorem follow_join {names : List (List Char)}
    (hnames : ∀ name ∈ names, IsName Posix.isSeparator name) (start : List (List Char)) :
    follow start (Text.join '/' names) = start ++ names := by
  rw [follow, isAbsolute_join hnames]
  by_cases hne : names = []
  · simp [hne, Text.join, Text.split]
  · rw [Text.split_join rfl hne fun name hname => (hnames name hname).free]
    exact foldl_enter_of_isName hnames

/-- The names below a location, joined and put behind its text, name the location that they lead
    to. -/
theorem spells_join_between {root : List Char} {source target : List (List Char)}
    (hroot : Spells root source) (htarget : ∀ name ∈ target, IsName Posix.isSeparator name)
    (hinside : source <+: target) :
    Spells (join [root, Text.join '/' (between source target)]) target := by
  have hnames : ∀ name ∈ target.drop source.length, IsName Posix.isSeparator name :=
    fun name hname => htarget name (List.mem_of_mem_drop hname)
  have hjoin := spells_join hroot.isAbsolute (isAbsolute_join hnames)
  rwa [follow_join hnames, hroot.follow_eq, List.prefix_iff_eq_append.1 hinside,
    ← between_of_inside hinside] at hjoin

/-- A Dockerfile inside the context has a name that leads to it from the context root, and no
    source. -/
theorem resolve_of_inside (hposix : place.platform = .posix)
    (hcwd : isAbsolute place.cwd.toList = true) {path spec : String}
    (hinside : rootLocation place path <+: specLocation place path spec) :
    ∃ name, resolve place spec (normalizeRoot place path) = ⟨some name, none⟩ ∧
      Spells (join [(normalizeRoot place path).toList, name.toList])
        (specLocation place path spec) := by
  have hroot := spells_normalizeRoot hposix hcwd path
  rw [resolve_posix hposix hcwd, rootLocation_normalizeRoot hposix hcwd,
    specLocation_normalizeRoot hposix hcwd, if_pos hinside]
  refine ⟨_, rfl, ?_⟩
  by_cases habs : isAbsolute spec.toList = true
  · rw [if_pos habs, String.toList_ofList]
    exact spells_join_between hroot (isName_of_mem_follow hroot.isName _) hinside
  · have habs : isAbsolute spec.toList = false := by simpa using habs
    rw [habs, if_neg Bool.false_ne_true, specLocation, ← hroot.follow_eq []]
    exact spells_join hroot.isAbsolute habs

/-! ### Outside the context -/

/-- The name of a relocated Dockerfile is a name in paths, and starts with a point. -/
theorem isName_relocatedName (source : List Char) :
    IsName Posix.isSeparator (relocatedName source) ∧ (relocatedName source).head? = some '.' := by
  obtain ⟨tail, hstem⟩ : ∃ tail, relocatedStem = '.' :: 'd' :: tail :=
    ⟨relocatedStem.drop 2, by decide⟩
  have hfree : (relocatedStem ++ Text.smallHexDigits).all (!Posix.isSeparator ·) = true := by decide
  have hnot : ∀ c ∈ relocatedStem ++ Text.smallHexDigits, Posix.isSeparator c = false :=
    fun c hc => by simpa using List.all_eq_true.1 hfree c hc
  refine ⟨⟨?_, ?_, ?_, fun c hc => hnot c ?_⟩, ?_⟩
  · simp [relocatedName, hstem]
  · simp [relocatedName, hstem, dot]
  · simp [relocatedName, hstem, dotDot]
  · rw [relocatedName, List.mem_append] at hc
    exact List.mem_append.2 (hc.imp_right ((digest_form _).2 c))
  · simp [relocatedName, hstem]

/-- A Dockerfile outside the context has a source, which names its location, and a name that is one
    name in paths and does not look like an option. -/
theorem resolve_of_not_inside (hposix : place.platform = .posix)
    (hcwd : isAbsolute place.cwd.toList = true) {path spec : String}
    (houtside : ¬ rootLocation place path <+: specLocation place path spec) :
    ∃ name source, resolve place spec (normalizeRoot place path) = ⟨some name, some source⟩ ∧
      Spells source.toList (specLocation place path spec) ∧
      IsName Posix.isSeparator name.toList ∧ name.toList.head? ≠ some '-' := by
  have hsource := spells_locationText hposix hcwd (normalizeRoot place path) spec
  rw [specLocation_normalizeRoot hposix hcwd] at hsource
  rw [resolve_posix hposix hcwd, rootLocation_normalizeRoot hposix hcwd,
    specLocation_normalizeRoot hposix hcwd, if_neg houtside]
  obtain ⟨hname, hhead⟩ := isName_relocatedName (locationText place (normalizeRoot place path) spec)
  refine ⟨_, _, rfl, ?_, ?_, ?_⟩
  · rwa [String.toList_ofList]
  · rwa [String.toList_ofList]
  · rw [String.toList_ofList, hhead]
    decide

end ImageBuild.Context
