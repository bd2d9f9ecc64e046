import ImageBuild.Proofs.Context.DriveContainment

namespace ImageBuild.Context

open ImageBuild.Path ImageBuild.Path.Windows

/-!
# Dockerfiles with a drive — what the letter of a drive decides, and where it is only a name

By Windows rules, a spec may name a drive and start at its root (`AtDrive`), or name a drive alone
(`BehindDrive`).  In any letters:

* `escapes_relative_of_drive_ne` — what starts at the root of another drive is outside the context;
* `enterAll_of_behindDrive`, `escapes_join_of_behindDrive` — what names a drive alone is no absolute
  path and is put behind the context root, where the drive with its colon is the front of a name;
* `atDrive_textBehindRoot` — it leads to its location there, even where a reserved name keeps the text
  of the two from being normalized.

So a spec of the first form is inside the context only on the drive of the root, and one of the
second form may be inside on every drive.
-/

variable {place : Place}

/-- A path that names a drive alone goes down from where it is used, unless it has a `..`.  Its first
    name starts with the drive, and is no more than the drive only where nothing follows. -/
theorem enterAll_of_behindDrive {letter : Char} {p : List Char} (h : BehindDrive letter p)
    (hdown : dotDot ∉ Text.split isSeparator p) (l : DriveLocation) :
    ∃ name more, l.enterAll p = l.below ((letter :: ':' :: name) :: more) ∧
      (name = [] → more = []) := by
  cases h with
  | @intro hletter tail htail =>
    obtain ⟨name, pieces, hpieces⟩ := Text.exists_split_eq_cons isSeparator tail
    have hsplit : Text.split isSeparator (letter :: ':' :: tail) =
        (letter :: ':' :: name) :: pieces :=
      Text.split_cons_of_not (isSeparator_of_isDriveLetter hletter)
        (Text.split_cons_of_not rfl hpieces)
    refine ⟨name, pieces.filter (fun piece => piece ≠ [] ∧ piece ≠ dot), ?_, ?_⟩
    · rw [DriveLocation.enterAll, foldl_enter_of_dotDot_notMem hdown, hsplit,
        List.filter_cons_of_pos (by simp [dot])]
      rfl
    · rintro rfl
      -- a first character would belong to the first piece
      cases tail with
      | nil => simp_all [Text.split]
      | cons c rest =>
        obtain ⟨first, others, hrest⟩ := Text.exists_split_eq_cons isSeparator rest
        rw [Text.split_cons_of_not (htail c rfl) hrest] at hpieces
        cases hpieces

/-- A path whose first name starts with a drive stays, where it does not read as the root of that
    drive. -/
theorem escapes_join_of_behindDrive {letter : Char} (hletter : isDriveLetter letter = true)
    {name : List Char} (hname : IsName isSeparator (letter :: ':' :: name))
    {more : List (List Char)} (hmore : name = [] → more = []) :
    escapes .windows (Text.join '\\' ((letter :: ':' :: name) :: more)) = false := by
  have hbehind : BehindDrive letter (Text.join '\\' ((letter :: ':' :: name) :: more)) := by
    -- what follows the colon is in the first name, or there is nothing
    obtain ⟨rest, hjoin, -⟩ := Text.join_cons_eq_append '\\' (letter :: ':' :: name) more
    cases name with
    | nil =>
      rw [hmore rfl]
      exact .intro hletter (by simp)
    | cons c name =>
      rw [hjoin]
      refine .intro hletter fun d hd => ?_
      cases hd
      exact hname.free c (by simp)
  have hfree : ∀ c ∈ letter :: ':' :: name, c ≠ '\\' := fun c hc => ne_backslash_of_isName hname hc
  rw [escapes_windows, hbehind.isAbsolute, Text.takeWhile_join_cons '\\' hfree]
  simp [dotDot]

/-- The text of a Dockerfile behind the context root: that of its location, with a last separator where
    the spec has one.  With a reserved name in front of a colon, the two texts are put together as they
    are. -/
def textBehindRoot (contextRoot spec : String) : List Char :=
  let root := driveRootLocation contextRoot
  let whole := root.text (endsInSeparator (unmarked contextRoot)) ++ '\\' :: unmarked spec
  if holdsReserved whole then toBackslashes whole
  else (root.enterAll (unmarked spec)).text (endsInSeparator (unmarked spec))

section Root

variable (hwindows : place.platform = .windows) {contextRoot spec : String} {letter other : Char}
  (hroot : AtDrive letter (unmarked contextRoot))

include hwindows hroot

/-- A spec at the root of another drive is relocated. -/
theorem relocated_of_atDrive (hspec : AtDrive other (unmarked spec))
    (hdrive : Text.asciiLower letter ≠ Text.asciiLower other) :
    (resolve place spec contextRoot).relocationSource ≠ none := by
  obtain ⟨hrootNamed, hrootDrive⟩ := isNamed_driveRootLocation hroot
  obtain ⟨htargetNamed, htargetDrive⟩ := isNamed_driveSpecLocation contextRoot hspec
  have hescapes := escapes_relative_of_drive_ne hrootNamed htargetNamed
    (by rwa [hrootDrive, htargetDrive]) place.processCwd.toList
    (endsInSeparator (unmarked contextRoot)) (endsInSeparator (unmarked spec))
  rw [resolve_atDrive hwindows hroot, locate_of_atDrive contextRoot hspec, if_pos hescapes]
  simp

omit hwindows

/-- A spec that names a drive alone is located behind the context root. -/
theorem locate_of_behindDrive (hspec : BehindDrive other (unmarked spec)) :
    locate .windows ((driveRootLocation contextRoot).text (endsInSeparator (unmarked contextRoot)))
      (unmarked spec) = textBehindRoot contextRoot spec := by
  obtain ⟨hrootNamed, -⟩ := isNamed_driveRootLocation hroot
  have hne : unmarked spec ≠ [] := by
    intro hnil
    rw [hnil] at hspec
    cases hspec
  rw [locate_windows, hspec.isAbsolute, if_neg Bool.false_ne_true,
    join_text_of_ne_nil hrootNamed _ hne]
  rfl

/-- What is located behind the context root is at its drive, and leads where the spec leads from
    there. -/
theorem atDrive_textBehindRoot (start : DriveLocation) (spec : String) :
    AtDrive letter (textBehindRoot contextRoot spec) ∧
      start.follow (textBehindRoot contextRoot spec) =
        (driveRootLocation contextRoot).enterAll (unmarked spec) := by
  obtain ⟨hrootNamed, rfl⟩ := isNamed_driveRootLocation hroot
  obtain ⟨hdrive, hfollow⟩ := atDrive_text_append hrootNamed
    (endsInSeparator (unmarked contextRoot)) start (unmarked spec)
  unfold textBehindRoot
  dsimp only
  split
  · obtain ⟨hdrive', hfollow'⟩ := hdrive.toBackslashes start
    exact ⟨hdrive', hfollow'.trans hfollow⟩
  · exact atDrive_text (hrootNamed.enterAll (unmarked spec)) _ start

/-- The path to what is located behind the context root is the path to its location. -/
theorem relative_textBehindRoot (cwd : List Char) (spec : String) (ended ended' : Bool) :
    relative cwd ((driveRootLocation contextRoot).text ended) (textBehindRoot contextRoot spec) =
      relative cwd ((driveRootLocation contextRoot).text ended)
        (((driveRootLocation contextRoot).enterAll (unmarked spec)).text ended') := by
  obtain ⟨hrootNamed, -⟩ := isNamed_driveRootLocation hroot
  obtain ⟨hdrive, hfollow⟩ := atDrive_textBehindRoot hroot (driveRootLocation contextRoot) spec
  rw [relative, relative, resolve_of_atDrive hdrive (driveRootLocation contextRoot), hfollow,
    resolve_text (hrootNamed.enterAll (unmarked spec))]

include hwindows

/-- A spec that names a drive alone and has no `..` is a Dockerfile inside the context, of this very
    name. -/
theorem resolve_of_behindDrive (hspec : BehindDrive other (unmarked spec))
    (hdown : dotDot ∉ Text.split isSeparator (unmarked spec)) :
    resolve place spec contextRoot =
      ⟨some (String.ofList (toForwardSlashes .windows (unmarked spec))), none⟩ := by
  obtain ⟨hrootNamed, -⟩ := isNamed_driveRootLocation hroot
  obtain ⟨name, more, hbelow, hmore⟩ :=
    enterAll_of_behindDrive hspec hdown (driveRootLocation contextRoot)
  have htarget : ((driveRootLocation contextRoot).below ((other :: ':' :: name) :: more)).IsNamed :=
    hbelow ▸ hrootNamed.enterAll (unmarked spec)
  have hname : IsName isSeparator (other :: ':' :: name) :=
    htarget.isName _ (by simp [DriveLocation.below])
  have hstay := escapes_join_of_behindDrive hspec.isDriveLetter hname hmore
  rw [resolve_atDrive hwindows hroot, locate_of_behindDrive hroot hspec,
    relative_textBehindRoot hroot _ _ _ false, hbelow, relative_below hrootNamed htarget rfl, hstay,
    if_neg Bool.false_ne_true, hspec.isAbsolute, if_neg Bool.false_ne_true]

end Root

/-- **Drives of Dockerfiles.** By Windows rules, against a context root at a drive: a spec that
    starts at the root of a drive is kept without relocation only on the drive of the context root,
    in any letter case.  A spec that names a drive alone is put behind the context root, whatever its
    drive: it leads to a location on the drive of the root, from which it is relocated, if at all,
    and without a `..` it is kept as a name in the context. -/
theorem resolution_of_drive_specs (place : Place) (hwindows : place.platform = .windows)
    {contextRoot spec : String} {letter other : Char}
    (hroot : AtDrive letter (unmarked contextRoot)) :
    let found := resolve? place (some spec) contextRoot
    let target := (driveRootLocation contextRoot).enterAll (unmarked spec)
    let location := textBehindRoot contextRoot spec
    (AtDrive other (unmarked spec) → found.relocationSource = none →
      Text.asciiLower other = Text.asciiLower letter) ∧
    (BehindDrive other (unmarked spec) →
      target.drive = letter ∧ AtDrive letter location ∧
      (∀ start : DriveLocation, start.follow location = target) ∧
      (∀ source, found.relocationSource = some source →
        source = String.ofList (if isLongPath .windows contextRoot.toList then
          longPathMark ++ location else location)) ∧
      (dotDot ∉ Text.split isSeparator (unmarked spec) →
        found = ⟨some (String.ofList (toForwardSlashes .windows (unmarked spec))), none⟩)) := by
  intro found target location
  obtain ⟨-, hletter⟩ := isNamed_driveRootLocation hroot
  refine ⟨fun hspec hkept => ?_, fun hspec => ⟨hletter, ?_, fun start => ?_, fun source hsource => ?_,
    fun hdown => ?_⟩⟩
  · by_contra hdrive
    exact relocated_of_atDrive hwindows hroot hspec (Ne.symm hdrive) hkept
  · exact (atDrive_textBehindRoot hroot target spec).1
  · exact (atDrive_textBehindRoot hroot start spec).2
  · rw [show found = resolve place spec contextRoot from rfl, resolve_atDrive hwindows hroot,
      locate_of_behindDrive hroot hspec] at hsource
    split at hsource
    · exact (Option.some.inj hsource).symm
    · cases hsource
  · exact resolve_of_behindDrive hwindows hroot hspec hdown

/-- A spec on the drive of the root is inside in other letters, and one that names another drive
    alone is a name in the context. -/
theorem drive_of_root_and_drive_alone :
    AtDrive 'C' (unmarked "C:\\ctx") ∧ AtDrive 'c' (unmarked "c:/CTX/D") ∧
      Text.asciiLower 'c' = Text.asciiLower 'C' ∧
      resolve? ⟨.windows, "C:\\", "C:\\"⟩ (some "D:Dockerfile") "C:\\ctx" =
        ⟨some "D:Dockerfile", none⟩ := by
  have hroot : AtDrive 'C' (unmarked "C:\\ctx") := .intro (by decide) (by decide) _
  have hspec : AtDrive 'c' (unmarked "c:/CTX/D") := .intro (by decide) (by decide) _
  have hother : BehindDrive 'D' (unmarked "D:Dockerfile") :=
    .intro (by decide) (by rintro c ⟨⟩; rfl)
  refine ⟨hroot, hspec, ?_, ?_⟩
  · exact (resolution_of_drive_specs ⟨.windows, "C:\\", "C:\\"⟩ rfl hroot).1 hspec (by decide)
  · obtain ⟨-, -, -, -, hkept⟩ :=
      (resolution_of_drive_specs ⟨.windows, "C:\\", "C:\\"⟩ rfl hroot).2 hother
    exact hkept (by decide +kernel)

/-- A spec that names another drive than that of the root is kept without relocation. -/
theorem other_drive_kept :
    AtDrive 'C' (unmarked "C:\\ctx") ∧ BehindDrive 'D' (unmarked "D:Dockerfile") ∧
      (resolve? ⟨.windows, "C:\\", "C:\\"⟩ (some "D:Dockerfile") "C:\\ctx").relocationSource =
        none ∧
      Text.asciiLower 'D' ≠ Text.asciiLower 'C' :=
  ⟨.intro (by decide) (by decide) _, .intro (by decide) (by rintro c ⟨⟩; rfl), by decide +kernel,
    by decide⟩

end ImageBuild.Context
