import ImageBuild.Proofs.Context.Rules
import ImageBuild.Proofs.Path.Location
import ImageBuild.Proofs.Text.Hex

namespace ImageBuild.Context

open ImageBuild.Path ImageBuild.Path.Posix

/-!
# Containment — which Dockerfiles lie in the context, by posix rules

The context root and the Dockerfile are each followed piece by piece to a location.  A Dockerfile is
relocated exactly when the location of the root is not at the front of its own, and it is then
reported by a text that names its location.

* `spells_rootOf`, `spells_locate` — the texts that resolution works on name these locations;
* `escapes_between_iff` — the path between them leaves the root unless that is at the front;
* `resolve_posix` — what resolution gives.
-/

variable {place : Place}

/-- The location of a context root. -/
def rootLocation (place : Place) (contextRoot : String) : List (List Char) :=
  follow (follow [] place.cwd.toList) contextRoot.toList

/-- The location of a Dockerfile given by a spec. -/
def specLocation (place : Place) (contextRoot spec : String) : List (List Char) :=
  follow (rootLocation place contextRoot) spec.toList

/-- The normalized context root names its location. -/
theorem spells_rootOf (hposix : place.platform = .posix)
    (hcwd : isAbsolute place.cwd.toList = true) (contextRoot : String) :
    Spells (rootOf place contextRoot.toList) (rootLocation place contextRoot) := by
  rw [rootOf_posix hposix, rootLocation]
  split
  · rename_i habs
    rw [← names_eq_follow habs, names_eq_follow habs []]
    exact spells_normalize habs
  · rename_i habs
    exact spells_join hcwd (by simpa using habs)

/-- The text of a Dockerfile's location names it. -/
theorem spells_locate {root : List Char} {location : List (List Char)}
    (hroot : Spells root location) (spec : List Char) :
    Spells (locate .posix root spec) (follow location spec) := by
  rw [locate_posix]
  split
  · rename_i habs
    rw [← names_eq_follow habs, names_eq_follow habs []]
    exact spells_normalize habs
  · rename_i habs
    rw [← hroot.follow_eq []]
    exact spells_join hroot.isAbsolute (by simpa using habs)

/-- A join of names is not absolute. -/
theorem isAbsolute_join {names : List (List Char)}
    (hnames : ∀ name ∈ names, IsName Posix.isSeparator name) :
    isAbsolute (Text.join '/' names) = false := by
  cases names with
  | nil => rfl
  | cons name rest =>
    have hname : IsName Posix.isSeparator name := hnames name (by simp)
    obtain ⟨ending, hjoin, -⟩ := Text.join_cons_eq_append '/' name rest
    obtain ⟨c, letters, rfl⟩ := List.exists_cons_of_ne_nil hname.ne_nil
    have hstart : isAbsolute (c :: letters) = false := isAbsolute_of_isName hname
    rw [hjoin]
    exact hstart

/-- The path from one location to another leaves the first one unless that is at the front of the
    second. -/
theorem escapes_between_iff {target : List (List Char)}
    (htarget : ∀ name ∈ target, IsName Posix.isSeparator name) (source : List (List Char)) :
    escapes .posix (Text.join '/' (between source target)) = true ↔ ¬ source <+: target := by
  by_cases hinside : source <+: target
  · have hnames : ∀ name ∈ target.drop source.length, IsName Posix.isSeparator name :=
      fun name hname => htarget name (List.mem_of_mem_drop hname)
    rw [between_of_inside hinside, escapes_posix, isAbsolute_join hnames]
    cases hdrop : target.drop source.length with
    | nil => simp [hinside, Text.join, dotDot]
    | cons name rest =>
      have hname := hnames name (by simp [hdrop])
      have hfree : ∀ c ∈ name, c ≠ '/' := by
        intro c hc
        simpa [Posix.isSeparator] using hname.free c hc
      rw [Text.takeWhile_join_cons '/' hfree]
      simp [hinside, hname.ne_dotDot]
  · obtain ⟨rest, hrest⟩ := between_of_outside hinside
    have hfree : ∀ c ∈ dotDot, c ≠ '/' := by simp [dotDot]
    rw [hrest, escapes_posix, Text.takeWhile_join_cons '/' hfree]
    simp [hinside]

/-- The digest in the name of a relocated Dockerfile is forty small hexadecimal digits. -/
theorem digest_form (message : List UInt8) :
    (Digest.Sha1.hex message).length = 40 ∧
      ∀ c ∈ Digest.Sha1.hex message, c ∈ Text.smallHexDigits := by
  constructor
  · simp [Digest.Sha1.hex, Digest.Sha1.wordHex]
  · intro c hc
    simp only [Digest.Sha1.hex, Digest.Sha1.wordHex, List.mem_append] at hc
    rcases hc with (((hc | hc) | hc) | hc) | hc
    all_goals exact Text.mem_hexDigits hc

/-- The name of a relocated Dockerfile is the stem and the digest of its source. -/
theorem relocatedName_eq (source : List Char) :
    String.ofList (relocatedName source) =
      ".dockerfile." ++ String.ofList (Digest.Sha1.hex (Text.Utf8.encode (Text.written source))) := by
  have hstem : String.ofList relocatedStem = ".dockerfile." := String.ofList_toList
  rw [relocatedName, String.ofList_append, hstem]

/-- The location of a Dockerfile as resolution writes it. -/
def locationText (place : Place) (contextRoot spec : String) : List Char :=
  locate place.platform (rootOf place contextRoot.toList) spec.toList

/-- The text of a Dockerfile's location names it. -/
theorem spells_locationText (hposix : place.platform = .posix)
    (hcwd : isAbsolute place.cwd.toList = true) (contextRoot spec : String) :
    Spells (locationText place contextRoot spec) (specLocation place contextRoot spec) := by
  rw [locationText, hposix]
  exact spells_locate (spells_rootOf hposix hcwd contextRoot) spec.toList

/-- By posix rules, the path to a Dockerfile is the one between the two locations. -/
theorem pathTo_eq_join (hposix : place.platform = .posix)
    (hcwd : isAbsolute place.cwd.toList = true) (contextRoot spec : String) :
    pathTo place contextRoot spec = Text.join '/' (between (rootLocation place contextRoot)
      (specLocation place contextRoot spec)) := by
  have hroot := spells_rootOf hposix hcwd contextRoot
  rw [pathTo_posix hposix]
  exact relative_of_spells hroot (spells_locate hroot spec.toList) _

/-- By posix rules, a Dockerfile inside the context keeps a relative spec and gets the names below
    the root for an absolute one; one outside is reported by the text of its location. -/
theorem resolve_posix (hposix : place.platform = .posix)
    (hcwd : isAbsolute place.cwd.toList = true) (contextRoot spec : String) :
    resolve place spec contextRoot =
      if rootLocation place contextRoot <+: specLocation place contextRoot spec then
        ⟨some (if isAbsolute spec.toList then
            String.ofList (Text.join '/' (between (rootLocation place contextRoot)
              (specLocation place contextRoot spec)))
          else spec), none⟩
      else
        ⟨some (String.ofList (relocatedName (locationText place contextRoot spec))),
          some (String.ofList (locationText place contextRoot spec))⟩ := by
  have htarget := spells_locationText hposix hcwd contextRoot spec
  have hescapes :=
    escapes_between_iff htarget.isName (rootLocation place contextRoot)
  rw [resolve]
  dsimp only
  rw [← pathTo, pathTo_eq_join hposix hcwd, locationText]
  simp only [hposix, dropLongPathMark_posix, isLongPath_posix, isAbsolute_posix]
  by_cases hinside : rootLocation place contextRoot <+: specLocation place contextRoot spec
  · rw [if_pos hinside, if_neg (by simpa [hescapes] using hinside)]
    split <;> simp [toForwardSlashes]
  · rw [if_neg hinside, if_pos (hescapes.2 hinside)]
    rfl

/-- **Containment.** By posix rules, a Dockerfile is relocated exactly when its location does not
    lie at or below that of the context root, name by name.  It is then reported by an absolute
    text that names its location, under the stem and the digest of that very text.  The digest is of
    the text as it is written (`Text.written`): for half of a pair that stands alone there is the
    replacement character, and so there is for the characters from U+7D800 to U+7DFFF, which are not
    assigned and stand for such halves in all texts here. -/
theorem posix_relocates_iff_outside (place : Place) (hposix : place.platform = .posix)
    (hcwd : isAbsolute place.cwd.toList = true) (spec contextRoot : String) :
    let root := rootLocation place contextRoot
    let target := specLocation place contextRoot spec
    let found := resolve? place (some spec) contextRoot
    (found.relocationSource = none ↔ root <+: target) ∧
      (¬ root <+: target → ∃ source digest,
        found.relocationSource = some source ∧ Spells source.toList target ∧
        digest = Digest.Sha1.hex (Text.Utf8.encode (Text.written source.toList)) ∧
        digest.length = 40 ∧ (∀ c ∈ digest, c ∈ Text.smallHexDigits) ∧
        found.contextRelativePath = some (".dockerfile." ++ String.ofList digest)) := by
  intro root target found
  have hfound : found = _ := resolve_posix hposix hcwd contextRoot spec
  by_cases hinside : root <+: target
  · rw [if_pos hinside] at hfound
    exact ⟨by simp [hfound, hinside], fun h => absurd hinside h⟩
  · rw [if_neg hinside] at hfound
    refine ⟨by simp [hfound, hinside], fun _ => ⟨_, _, by rw [hfound], ?_, rfl, ?_⟩⟩
    · rw [String.toList_ofList]
      exact spells_locationText hposix hcwd contextRoot spec
    · rw [hfound, relocatedName_eq, String.toList_ofList]
      exact ⟨(digest_form _).1, (digest_form _).2, rfl⟩

/-- A directory that shares the letters of the root's name is outside, and one whose name starts
    with two points is inside. -/
theorem posix_sibling_outside_dotted_name_inside :
    isAbsolute "/work".toList = true ∧
      (resolve? ⟨.posix, "/work", "/"⟩ (some "../base-other/Dockerfile")
        "build//base/").relocationSource ≠ none ∧
      (resolve? ⟨.posix, "/work", "/"⟩ (some "x/../..foo/Dockerfile")
        "build//base/").relocationSource = none := by
  have habs : isAbsolute "/work".toList = true := by decide
  refine ⟨habs, ?_, ?_⟩
  · have hiff := (posix_relocates_iff_outside ⟨.posix, "/work", "/"⟩ rfl habs
      "../base-other/Dockerfile" "build//base/").1
    exact mt hiff.1 (by decide)
  · exact (posix_relocates_iff_outside ⟨.posix, "/work", "/"⟩ rfl habs
      "x/../..foo/Dockerfile" "build//base/").1.2 (by decide)

end ImageBuild.Context
