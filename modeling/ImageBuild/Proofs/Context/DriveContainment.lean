import ImageBuild.Proofs.Context.Rules
import ImageBuild.Proofs.Path.DriveRelative

namespace ImageBuild.Context

open ImageBuild.Path ImageBuild.Path.Windows

/-!
# Containment on drives — which Dockerfiles lie in the context, by Windows rules

A context root on a drive and a Dockerfile, on a drive or relative to the root, are each followed
piece by piece to a location, with both separators read and without the mark of long paths.  A
Dockerfile is relocated exactly when the root does not contain its location, where letter case does
not count.

* `escapes_relative_iff` — the path between two locations leaves the first one unless it contains
  the second;
* `resolve_onDrive` — what resolution gives;
* `exists_join_named` — the name of a Dockerfile inside the context leads to it.
-/

variable {place : Place}

/-- The location of a context root on a drive, which it names itself: the location that it is followed
    from does not matter. -/
def driveRootLocation (contextRoot : String) : DriveLocation :=
  DriveLocation.follow ⟨'C', []⟩ (unmarked contextRoot)

/-- The location of a Dockerfile given by a spec. -/
def driveSpecLocation (contextRoot spec : String) : DriveLocation :=
  (driveRootLocation contextRoot).follow (unmarked spec)

/-- A location is at or below another one on the same drive, name by name and in any letter case. -/
def Contains (root target : DriveLocation) : Prop :=
  root.small.drive = target.small.drive ∧ root.small.names <+: target.small.names

instance (root target : DriveLocation) : Decidable (Contains root target) :=
  inferInstanceAs (Decidable (_ ∧ _))

/-- The two forms of specs: on a drive, or relative. -/
def IsDriveSpec (spec : List Char) : Prop := OnDrive spec ∨ IsRelative spec

/-! ### Leaving a location -/

/-- A join of names is not absolute, and its first name is not `..`. -/
theorem escapes_join {names : List (List Char)} (hnames : ∀ name ∈ names, IsName isSeparator name)
    (hplain : ∀ name ∈ names, IsPlain name) : escapes .windows (Text.join '\\' names) = false := by
  cases names with
  | nil => rfl
  | cons name rest =>
    have hname := hnames name (by simp)
    have hfree : ∀ c ∈ name, c ≠ '\\' := fun c hc => ne_backslash_of_isName hname hc
    have hrelative : IsRelative (Text.join '\\' (name :: rest)) := by
      refine ⟨fun c hc => ?_, fun c hc => ?_⟩
      · rcases Text.mem_join hc with rfl | ⟨other, hother, hmem⟩
        · decide
        · exact hplain other hother c hmem
      · exact head?_join hnames false c (by simpa using hc)
    rw [escapes_windows, hrelative.isAbsolute, Text.takeWhile_join_cons '\\' hfree]
    simp [hname.ne_dotDot]

/-- The path to a location on another drive leaves the first one. -/
theorem escapes_relative_of_drive_ne {root target : DriveLocation} (hroot : root.IsNamed)
    (htarget : target.IsNamed) (hdrive : Text.asciiLower root.drive ≠ Text.asciiLower target.drive)
    (cwd : List Char) (ended ended' : Bool) :
    escapes .windows (relative cwd (root.text ended) (target.text ended')) = true := by
  have habs : isAbsolute (target.text false) = true :=
    isAbsolute_textOf (.drive htarget.letter) _ _
  rw [relative_of_drive_ne hroot htarget hdrive, escapes_windows, habs, Bool.true_or]

/-- The path from one location to another leaves the first one unless it contains the second. -/
theorem escapes_relative_iff {root target : DriveLocation} (hroot : root.WellFormed)
    (htarget : target.WellFormed) (cwd : List Char) (ended ended' : Bool) :
    escapes .windows (relative cwd (root.text ended) (target.text ended')) = true ↔
      ¬ Contains root target := by
  by_cases hdrive : root.small.drive = target.small.drive
  · by_cases hin : root.small.names <+: target.small.names
    · have hstay :
          escapes .windows (Text.join '\\' (target.names.drop root.names.length)) = false :=
        escapes_join (fun name hname => htarget.isName name (List.mem_of_mem_drop hname))
          fun name hname => htarget.plain name (List.mem_of_mem_drop hname)
      rw [relative_of_inside hroot htarget cwd ended ended' hdrive hin, hstay]
      simp [Contains, hdrive, hin]
    · have hup := takeWhile_relative_of_elsewhere hroot htarget cwd ended ended' hdrive hin
      rw [escapes_windows, hup]
      simp [Contains, hin]
  · rw [escapes_relative_of_drive_ne hroot.isNamed htarget.isNamed hdrive]
    simp [Contains, hdrive]

/-! ### Texts of roots and Dockerfiles -/

/-- A context root at a drive leads to a location on it. -/
theorem isNamed_driveRootLocation {contextRoot : String} {letter : Char}
    (h : AtDrive letter (unmarked contextRoot)) :
    (driveRootLocation contextRoot).IsNamed ∧ (driveRootLocation contextRoot).drive = letter :=
  h.isNamed _

/-- A spec at a drive leads to a location on it. -/
theorem isNamed_driveSpecLocation (contextRoot : String) {spec : String} {letter : Char}
    (h : AtDrive letter (unmarked spec)) :
    (driveSpecLocation contextRoot spec).IsNamed ∧
      (driveSpecLocation contextRoot spec).drive = letter :=
  h.isNamed _

/-- A spec at a drive is located by the text of its location, whatever the context root. -/
theorem locate_of_atDrive (contextRoot : String) {spec : String} {letter : Char}
    (h : AtDrive letter (unmarked spec)) (root : List Char) :
    locate .windows root (unmarked spec) =
      (driveSpecLocation contextRoot spec).text (endsInSeparator (unmarked spec)) := by
  rw [locate_windows, h.isAbsolute, if_pos rfl]
  exact normalize_of_atDrive h _

/-- A context root on a drive leads to a well-formed location. -/
theorem wellFormed_driveRootLocation {contextRoot : String} (h : OnDrive (unmarked contextRoot)) :
    (driveRootLocation contextRoot).WellFormed := h.wellFormed _

/-- A Dockerfile on a drive, or relative to a root on one, is at a well-formed location. -/
theorem wellFormed_follow {root : DriveLocation} (hroot : root.WellFormed) {spec : List Char}
    (hspec : IsDriveSpec spec) : (root.follow spec).WellFormed := by
  rcases hspec with hdrive | hrelative
  · exact hdrive.wellFormed root
  · rw [hrelative.follow_eq]
    exact hroot.enterAll hrelative.plain

/-- The normalized context root is the text of its location. -/
theorem rootOf_atDrive (hwindows : place.platform = .windows) {contextRoot : String}
    {letter : Char} (h : AtDrive letter (unmarked contextRoot)) :
    rootOf place contextRoot.toList =
      (driveRootLocation contextRoot).text (endsInSeparator (unmarked contextRoot)) := by
  rw [rootOf_windows hwindows, h.isAbsolute, if_pos rfl]
  exact normalize_of_atDrive h _

/-- The text of a Dockerfile's location has a last separator where its spec has one.  A spec without
    a name is at the root itself. -/
theorem locate_text {root : DriveLocation} (hroot : root.WellFormed) {spec : List Char}
    (hspec : IsDriveSpec spec) (ended : Bool) :
    locate .windows (root.text ended) spec =
      (root.follow spec).text (if spec = [] then ended else endsInSeparator spec) := by
  rw [locate_windows]
  rcases hspec with hdrive | hrelative
  · have hne : spec ≠ [] := by
      rintro rfl
      cases hdrive
    obtain ⟨letter, hdrive⟩ := hdrive.atDrive
    rw [hdrive.isAbsolute, if_pos rfl, if_neg hne]
    exact normalize_of_atDrive hdrive root
  · rw [hrelative.isAbsolute, if_neg Bool.false_ne_true, hrelative.follow_eq]
    have hcolon : ':' ∉ spec := fun hmem => (hrelative.plain ':' hmem).2 rfl
    exact join_text hroot.isNamed ended (hroot.holdsReserved_append ended hcolon)

/-- Against a context root at a drive, resolution asks whether the path from the text of its location
    leaves it. -/
theorem resolve_atDrive (hwindows : place.platform = .windows) {contextRoot : String}
    {letter : Char} (hroot : AtDrive letter (unmarked contextRoot)) (spec : String) :
    let rootText := (driveRootLocation contextRoot).text (endsInSeparator (unmarked contextRoot))
    let location := locate .windows rootText (unmarked spec)
    let path := relative place.processCwd.toList rootText location
    resolve place spec contextRoot =
      if escapes .windows path then
        ⟨some (String.ofList (relocatedName location)),
          some (String.ofList (if isLongPath .windows contextRoot.toList then
            longPathMark ++ location else location))⟩
      else
        ⟨some (String.ofList (toForwardSlashes .windows
          (if isAbsolute (unmarked spec) then path else unmarked spec))), none⟩ := by
  simp only [resolve, rootOf_atDrive hwindows hroot]
  rw [hwindows]
  rfl

/-- By Windows rules, a Dockerfile inside the context keeps a relative spec and gets the path from
    the root otherwise, with forward slashes; one outside is reported by the text of its location,
    which gets the mark of long paths back if the root has it. -/
theorem resolve_onDrive (hwindows : place.platform = .windows) {contextRoot spec : String}
    (hroot : OnDrive (unmarked contextRoot)) (hspec : IsDriveSpec (unmarked spec)) :
    let root := driveRootLocation contextRoot
    let target := driveSpecLocation contextRoot spec
    let rootText := root.text (endsInSeparator (unmarked contextRoot))
    let location := locate .windows rootText (unmarked spec)
    resolve place spec contextRoot =
      if Contains root target then
        ⟨some (String.ofList (toForwardSlashes .windows
          (if isAbsolute (unmarked spec) then
            relative place.processCwd.toList rootText location else unmarked spec))), none⟩
      else
        ⟨some (String.ofList (relocatedName location)),
          some (String.ofList (if isLongPath .windows contextRoot.toList then
            longPathMark ++ location else location))⟩ := by
  intro root target rootText location
  have htarget : target.WellFormed := wellFormed_follow (wellFormed_driveRootLocation hroot) hspec
  have hescapes : escapes .windows (relative place.processCwd.toList rootText location) = true ↔
      ¬ Contains root target := by
    have htext : location = target.text _ :=
      locate_text (wellFormed_driveRootLocation hroot) hspec _
    rw [htext]
    exact escapes_relative_iff (wellFormed_driveRootLocation hroot) htarget _ _ _
  obtain ⟨letter, hletter⟩ := hroot.atDrive
  rw [resolve_atDrive hwindows hletter spec]
  by_cases hin : Contains root target
  · rw [if_pos hin, if_neg fun h => hescapes.1 h hin]
  · rw [if_neg hin, if_pos (hescapes.2 hin)]

/-! ### Names inside the context -/

/-- There is no backslash in a path with forward slashes. -/
theorem backslash_notMem_toForwardSlashes (p : List Char) :
    '\\' ∉ toForwardSlashes .windows p := by
  intro h
  obtain ⟨c, -, hc⟩ := List.mem_map.1 h
  split at hc
  · cases hc
  · rename_i hne
    exact hne hc

/-- There is no colon in a path with forward slashes that was not there before. -/
theorem colon_notMem_toForwardSlashes {p : List Char} (hp : ':' ∉ p) :
    ':' ∉ toForwardSlashes .windows p := by
  intro h
  obtain ⟨c, hmem, hc⟩ := List.mem_map.1 h
  split at hc
  · cases hc
  · exact hp (hc ▸ hmem)

/-- A path with forward slashes and without a colon, joined to the text of a location, leads where
    the path leads. -/
theorem exists_join_toForwardSlashes {l : DriveLocation} (hl : l.WellFormed) (ended : Bool)
    {p : List Char} (hp : ':' ∉ p) :
    ∃ ended', join [l.text ended, toForwardSlashes .windows p] = (l.enterAll p).text ended' := by
  have henter : l.enterAll (toForwardSlashes .windows p) = l.enterAll p := by
    have hpieces : Text.split isSeparator (toForwardSlashes .windows p) = Text.split isSeparator p :=
      split_swap (by decide) (by decide) p
    rw [DriveLocation.enterAll, hpieces]
    rfl
  have hplain := hl.holdsReserved_append ended (colon_notMem_toForwardSlashes hp)
  exact ⟨_, by rw [join_text hl.isNamed ended hplain, henter]⟩

/-- Names of a location lead down to it. -/
theorem enterAll_join {l : DriveLocation} {names : List (List Char)}
    (hnames : ∀ name ∈ names, IsName isSeparator name) :
    l.enterAll (Text.join '\\' names) = l.below names := by
  by_cases hne : names = []
  · simp [DriveLocation.enterAll, DriveLocation.below, hne, Text.join, Text.split]
  · have hfree : ∀ name ∈ names, ∀ c ∈ name, isSeparator c = false :=
      fun name hname => (hnames name hname).free
    rw [DriveLocation.enterAll, Text.split_join rfl hne hfree, foldl_enter_of_isName hnames]
    rfl

/-- A location is contained in another one when it is below it, in whatever letters that is spelled.
    -/
theorem small_below_of_contains {root target : DriveLocation} (h : Contains root target) :
    (root.below (target.names.drop root.names.length)).small = target.small := by
  obtain ⟨hdrive, hnames⟩ := h
  have hlength : root.small.names.length = root.names.length := List.length_map _
  refine DriveLocation.ext hdrive ?_
  calc (root.below (target.names.drop root.names.length)).small.names
      = root.small.names ++ target.small.names.drop root.names.length := by
        simp [DriveLocation.small, DriveLocation.below]
    _ = target.small.names := by
        rw [← hlength]
        exact List.prefix_iff_eq_append.1 hnames

/-- The name of a Dockerfile inside the context leads from the root to a location with its small
    letters. -/
theorem exists_join_named {root : DriveLocation} (hroot : root.WellFormed) {spec : List Char}
    (hspec : IsDriveSpec spec) (hin : Contains root (root.follow spec)) (cwd : List Char)
    (ended ended' : Bool) :
    let target := root.follow spec
    let named := if isAbsolute spec then
      relative cwd (root.text ended) (target.text ended') else spec
    ∃ reached : DriveLocation, ∃ ended'', reached.small = target.small ∧
      join [root.text ended, toForwardSlashes .windows named] = reached.text ended'' := by
  intro target named
  rcases hspec with hdrive | hrelative
  · have htarget : target.WellFormed := hdrive.wellFormed root
    have hnamed : named = Text.join '\\' (target.names.drop root.names.length) := by
      rw [show named = relative cwd (root.text ended) (target.text ended') from
        if_pos hdrive.isAbsolute]
      exact relative_of_inside hroot htarget cwd ended ended' hin.1 hin.2
    have hcolon : ':' ∉ named := by
      rw [hnamed]
      intro hmem
      rcases Text.mem_join hmem with heq | ⟨name, hname, hc⟩
      · cases heq
      · exact (htarget.plain name (List.mem_of_mem_drop hname) ':' hc).2 rfl
    obtain ⟨ended'', hjoin⟩ := exists_join_toForwardSlashes hroot ended hcolon
    refine ⟨_, ended'', ?_, hjoin⟩
    rw [hnamed, enterAll_join fun name hname => htarget.isName name (List.mem_of_mem_drop hname)]
    exact small_below_of_contains hin
  · have hnamed : named = spec := if_neg (by simp [hrelative.isAbsolute])
    have hcolon : ':' ∉ named := fun hmem => (hrelative.plain ':' (hnamed ▸ hmem)).2 rfl
    obtain ⟨ended'', hjoin⟩ := exists_join_toForwardSlashes hroot ended hcolon
    refine ⟨_, ended'', ?_, hjoin⟩
    rw [hnamed, ← hrelative.follow_eq]

/-- **Containment on drives.** By Windows rules, a Dockerfile is relocated exactly when the location
    of the context root does not contain its own: when it is on another drive, or the names of the
    root are not its first ones, in any letter case.  A relative spec stays on the drive of the root.
    Inside, the Dockerfile gets a name without backslashes that leads to its location from the root,
    up to letter case and a last separator.  Outside, it gets the name that belongs to the text of
    its location without the mark of long paths, and this text is its source, with the mark exactly
    when the context root has it. -/
theorem drive_relocates_iff_outside (place : Place) (hwindows : place.platform = .windows)
    {contextRoot spec : String} (hroot : OnDrive (unmarked contextRoot))
    (hspec : IsDriveSpec (unmarked spec)) :
    let root := driveRootLocation contextRoot
    let target := driveSpecLocation contextRoot spec
    let location := target.text (endsInSeparator (unmarked spec))
    let found := resolve? place (some spec) contextRoot
    (found.relocationSource = none ↔ Contains root target) ∧
    (IsRelative (unmarked spec) → target.drive = root.drive) ∧
    (Contains root target → ∃ name ended, found.contextRelativePath = some name ∧
      '\\' ∉ name.toList ∧
      (join [rootOf place contextRoot.toList, name.toList]).map Text.asciiLower =
        (target.text ended).map Text.asciiLower) ∧
    (¬ Contains root target →
      found.contextRelativePath = some (String.ofList (relocatedName location)) ∧
      found.relocationSource = some (String.ofList (if isLongPath .windows contextRoot.toList then
        longPathMark ++ location else location))) := by
  intro root target location found
  have hrootForm : root.WellFormed := wellFormed_driveRootLocation hroot
  have hfound : found = _ := resolve_onDrive hwindows hroot hspec
  have hlocate := locate_text hrootForm hspec (endsInSeparator (unmarked contextRoot))
  have hstays : IsRelative (unmarked spec) → target.drive = root.drive := by
    intro hrelative
    rw [show target = root.enterAll (unmarked spec) from hrelative.follow_eq root]
    rfl
  by_cases hin : Contains root target
  · rw [if_pos hin, hlocate] at hfound
    obtain ⟨reached, ended, hsmall, hjoin⟩ :=
      exists_join_named hrootForm hspec hin place.processCwd.toList _ _
    refine ⟨by simp [hfound, hin], hstays, fun _ => ⟨_, ended, by rw [hfound], ?_, ?_⟩,
      fun hout => absurd hin hout⟩
    · rw [String.toList_ofList]
      exact backslash_notMem_toForwardSlashes _
    · obtain ⟨letter, hletter⟩ := hroot.atDrive
      rw [String.toList_ofList, rootOf_atDrive hwindows hletter, hjoin, map_asciiLower_text, hsmall,
        ← map_asciiLower_text]
      rfl
  · -- a spec without a name leads to the root itself, which is inside
    have hne : unmarked spec ≠ [] := by
      intro hempty
      have htarget : target = root := by
        rw [show target = root.follow (unmarked spec) from rfl, hempty]
        exact root.enterAll_nil
      exact hin (htarget ▸ ⟨rfl, List.prefix_refl _⟩)
    rw [if_neg hne] at hlocate
    rw [if_neg hin, hlocate] at hfound
    refine ⟨by simp [hfound, hin], hstays, fun h => absurd h hin, fun _ => ?_⟩
    rw [hfound]
    exact ⟨rfl, rfl⟩

/-- A root with the mark of long paths contains what is spelled in other letters and slashes; what
    is beside it gets the mark. -/
theorem marked_root_and_other_spellings :
    OnDrive (unmarked "\\\\?\\C:\\Ctx/x\\..") ∧ IsDriveSpec (unmarked "c:/CTX//build/./D") ∧
      IsDriveSpec (unmarked "build/..\\..\\D") ∧
      (resolve? ⟨.windows, "C:\\", "C:\\"⟩ (some "c:/CTX//build/./D")
        "\\\\?\\C:\\Ctx/x\\..").relocationSource = none ∧
      (resolve? ⟨.windows, "C:\\", "C:\\"⟩ (some "build/..\\..\\D")
        "\\\\?\\C:\\Ctx/x\\..").relocationSource = some "\\\\?\\C:\\D" := by
  have hroot : OnDrive (unmarked "\\\\?\\C:\\Ctx/x\\..") :=
    OnDrive.intro (by decide) (by decide) (by decide +kernel)
  have hother : IsDriveSpec (unmarked "c:/CTX//build/./D") :=
    .inl (OnDrive.intro (by decide) (by decide) (by decide +kernel))
  have hbeside : IsDriveSpec (unmarked "build/..\\..\\D") :=
    .inr ⟨by decide +kernel, by rintro c ⟨⟩; rfl⟩
  refine ⟨hroot, hother, hbeside, ?_, ?_⟩
  · exact (drive_relocates_iff_outside ⟨.windows, "C:\\", "C:\\"⟩ rfl hroot hother).1.2 (by decide)
  · obtain ⟨-, -, -, hsource⟩ :=
      drive_relocates_iff_outside ⟨.windows, "C:\\", "C:\\"⟩ rfl hroot hbeside
    rw [(hsource (by decide)).2]
    decide

end ImageBuild.Context
