import ImageBuild.Archive.Packager
import ImageBuild.Proofs.Archive.Staging

namespace ImageBuild.Archive

open ImageBuild.Path ImageBuild.Path.Posix

/-!
# Launches — what the archiver is started with, and what comes of it

A packed context is what comes of one start of the archiver, over the files that staging leaves and
with the arguments that `arguments` makes (`pack_eq_ok`).  For a Dockerfile without a source nothing
is staged and the context is packed alone (`launch_of_no_source`); one with a source is staged under
its name, which comes last among the arguments (`launch_of_source`).
-/

/-! ### Staging -/

/-- A request needs a Dockerfile to be staged: there is a source for it and a name. -/
structure NeedsStaging (request : PackRequest) (source placeholder : String) : Prop where
  source_eq : request.resolved.relocationSource = some source
  source_ne : source ≠ ""
  placeholder_eq : request.resolved.contextRelativePath = some placeholder
  placeholder_ne : placeholder ≠ ""

/-- Staging does nothing for a request that does not need it. -/
theorem run_stageFor_of_not_needsStaging {request : PackRequest}
    (h : ∀ source placeholder, ¬ NeedsStaging request source placeholder) (s : Session) :
    (stageFor request).run s = (.ok none, s) := by
  unfold stageFor
  split
  · rename_i source placeholder hsource hplaceholder
    have hempty : (source.isEmpty || placeholder.isEmpty) = true := by
      by_contra hne
      simp only [Bool.or_eq_true, String.isEmpty_iff, not_or] at hne
      exact h source placeholder ⟨hsource, hne.1, hplaceholder, hne.2⟩
    rw [if_pos hempty]
    rfl
  · rfl

/-- Where a Dockerfile is to be staged, this is tried, and the files are left that are left then. -/
theorem run_stageFor_of_needsStaging {request : PackRequest} {source placeholder : String}
    (h : NeedsStaging request source placeholder) (s : Session) :
    (∃ failure, stage s.files s.environment.temporary source placeholder = .error failure ∧
      (stageFor request).run s = (.error failure,
        { s with files := (tryStage s.files s.environment.temporary source placeholder).2 })) ∨
    ∃ made s', stage s.files s.environment.temporary source placeholder = .ok made ∧
      (stageFor request).run s = (.ok (some made), s') ∧ s'.files = made.tree ∧
      s'.refusal? = s.refusal? := by
  have hsome : ¬ (source.isEmpty || placeholder.isEmpty) = true := by
    simp [h.source_ne, h.placeholder_ne]
  simp only [stageFor, h.source_eq, h.placeholder_eq]
  rw [if_neg hsome, Action.run_get_bind, Action.run_set_bind, Action.run_bind,
    Action.run_ofExcept, ← stage]
  cases hstage : stage s.files s.environment.temporary source placeholder with
  | error failure => exact .inl ⟨failure, rfl, rfl⟩
  | ok made =>
    obtain ⟨s', htold⟩ : ∃ s', (Action.debug ("Dockerfile " ++ source ++
        " is outside the context, adding it as " ++ placeholder)).run
          { s with files := (tryStage s.files s.environment.temporary source placeholder).2 } =
        (.ok (), s') := ⟨_, Action.run_log _ _⟩
    have hfiles := (Action.files_of_run_debug htold).trans (left_of_stage hstage)
    have hrefusal : s'.refusal? = s.refusal? := by rw [Action.eq_of_run_debug htold]
    exact .inr ⟨made, s', rfl, by simp only [Action.run_bind, htold]; rfl, hfiles, hrefusal⟩

/-- Where a Dockerfile is to be staged and this does not fail, it has been staged. -/
theorem exists_staged_of_needsStaging {request : PackRequest} {source placeholder : String}
    (hneeds : NeedsStaging request source placeholder) {s s' : Session} {staged : Option Staged}
    (h : (stageFor request).run s = (.ok staged, s')) :
    ∃ made, staged = some made ∧
      stage s.files s.environment.temporary source placeholder = .ok made ∧
      s'.files = made.tree := by
  rcases run_stageFor_of_needsStaging hneeds s with ⟨failure, -, hrun⟩ |
    ⟨made, s₁, hmade, hrun, hfiles, -⟩
  · rw [hrun] at h
    cases h
  · rw [hrun] at h
    cases h
    exact ⟨made, rfl, hmade, hfiles⟩

/-- What has been staged is a Dockerfile that was to be. -/
theorem needsStaging_of_stageFor {request : PackRequest} {s s' : Session} {made : Staged}
    (h : (stageFor request).run s = (.ok (some made), s')) :
    ∃ source placeholder, NeedsStaging request source placeholder ∧
      stage s.files s.environment.temporary source placeholder = .ok made ∧
      s'.files = made.tree := by
  by_cases hneeds : ∃ source placeholder, NeedsStaging request source placeholder
  · obtain ⟨source, placeholder, hneeds⟩ := hneeds
    obtain ⟨made', hsame, hmade⟩ := exists_staged_of_needsStaging hneeds h
    obtain rfl := Option.some.inj hsame
    exact ⟨source, placeholder, hneeds, hmade⟩
  · simp only [not_exists] at hneeds
    rw [run_stageFor_of_not_needsStaging hneeds s] at h
    cases h

section Staging

variable {request : PackRequest} {s s' : Session} {staged : Option Staged}

/-- Nothing is staged for a Dockerfile without a source, and no files change. -/
theorem eq_none_of_stageFor (hsource : request.resolved.relocationSource = none)
    (h : (stageFor request).run s = (.ok staged, s')) : staged = none ∧ s'.files = s.files := by
  rw [stageFor, hsource] at h
  cases h
  exact ⟨rfl, rfl⟩

/-- For a Dockerfile without a source, the archiver packs the context alone, from the files that were
    there. -/
theorem launch_of_no_source (hsource : request.resolved.relocationSource = none)
    (h : (stageFor request).run s = (.ok staged, s')) :
    s'.files = s.files ∧
      arguments request.contextRoot (staged.map (·.path)) request.resolved.contextRelativePath =
        ["-c", "-f", "-", "-C", request.contextRoot, "."] := by
  obtain ⟨rfl, hfiles⟩ := eq_none_of_stageFor hsource h
  exact ⟨hfiles, rfl⟩

/-- For a Dockerfile with a source, the archiver packs the context and then the Dockerfile's name
    from the directory where it is staged. -/
theorem launch_of_source (hclosed : s.files.IsClosed) {name source : String}
    (hresolved : request.resolved = ⟨some name, some source⟩) {target : List (List Char)}
    (hsource : Spells source.toList target) (hname : IsName isSeparator name.toList)
    (h : (stageFor request).run s = (.ok staged, s')) :
    ∃ directory staging, IsStaged s.files s'.files directory staging source name ∧
      arguments request.contextRoot (staged.map (·.path)) request.resolved.contextRelativePath =
        ["-c", "-f", "-", "-C", request.contextRoot, "."] ++ ["-C", staging, name] := by
  have hne : source ≠ "" := by
    rintro rfl
    exact absurd hsource.isAbsolute (by decide)
  have hne' : name ≠ "" := by
    rintro rfl
    exact hname.ne_nil rfl
  have hneeds : NeedsStaging request source name :=
    ⟨by rw [hresolved], hne, by rw [hresolved], hne'⟩
  obtain ⟨made, rfl, hmade, hfiles⟩ := exists_staged_of_needsStaging hneeds h
  have hstaged := isStaged_of_stage hclosed hsource hname hmade
  have hpath : made.path ≠ "" := by
    intro hempty
    have hlocated := FileTree.locateDirectory_eq_ok_iff.1 hstaged.located
    rw [hempty] at hlocated
    exact absurd (FileTree.follow_of_locate hlocated).1 (by decide)
  refine ⟨made.directory, made.path, hfiles ▸ hstaged, ?_⟩
  simp [arguments, hresolved, hpath, hne']

end Staging

/-! ### Reading the stream -/

/-- What the reader of a stream gets that ends as an archiver does. -/
def Outcome.output (command : String) (o : Outcome) : Except ClientError Content :=
  if o.exitCode = some 0 then .ok o.content
  else
    .error (.archiverFailed command o.exitCode (String.ofList (Text.Utf8.decode o.complaint)))

/-- What the reader of the stream gets from a start of the archiver, unless it was not even tried. -/
def Start.output (command : String) : Start → Except Failure (Except ClientError Content)
  | .refused failure => .error failure
  | .failed reason => .ok (.error (.cannotStart command reason))
  | .running outcome => .ok (outcome.output command)

/-- The error that a stream was broken off with. -/
def Stream.error? : Stream → Option ClientError
  | .destroyed error => error
  | _ => none

/-- What is left of a packed context is what its lifecycle ends with, and the files are those that were
    there, without the staging directory once it is removed. -/
theorem run_after (p : Packing) (events : List Event) (s : Session) :
    ∃ s', (p.after events).run s =
        (.ok (State.run p.command { staged := p.staging.isSome } events).1, s') ∧
      s'.files = if (State.run p.command { staged := p.staging.isSome } events).1.staged then s.files
        else p.staging.elim s.files s.files.remove := by
  have htell : ∀ (final : State) (told : List Log.Line) (s : Session),
      ∃ s', (do Action.logAll told; return final : Action State).run s = (.ok final, s') ∧
        s'.files = s.files := by
    intro final told s
    obtain ⟨s', hs'⟩ := Action.exists_run_logAll told s
    exact ⟨s', by rw [Action.run_bind, hs']; rfl, Action.files_of_run_logAll hs'⟩
  unfold Packing.after
  cases p.staging with
  | none =>
    obtain ⟨s', hs', hfiles⟩ := htell _ _ s
    exact ⟨s', hs', by simp [hfiles]⟩
  | some directory =>
    simp only
    cases hstaged : (State.run p.command { staged := (some directory).isSome } events).1.staged with
    | false =>
      obtain ⟨s', hs', hfiles⟩ := htell _ _ { s with files := s.files.remove directory }
      refine ⟨s', ?_, by simp [hfiles]⟩
      rw [Bool.not_false, if_pos rfl, Action.run_modify_bind]
      exact hs'
    | true =>
      obtain ⟨s', hs', hfiles⟩ := htell _ _ s
      exact ⟨s', hs', by simp [hfiles]⟩

/-- The stream ends when the archiver succeeds, and is broken off with its error otherwise. -/
theorem stream_of_exited (command : String) (staged : Bool) (o : Outcome) :
    (State.run command { staged } o.events).1.stream =
      if o.exitCode = some 0 then .ended
      else
        .destroyed (some (.archiverFailed command o.exitCode
          (String.ofList (Text.Utf8.decode o.complaint)))) := by
  by_cases hcode : o.exitCode = some 0 <;>
    simp [Outcome.events, State.run, State.step, State.breakOff, Stream.isDestroyed, hcode]

/-- The stream is broken off when the archiver turns out not to run. -/
theorem stream_of_failedToStart (command reason : String) (staged : Bool) :
    (State.run command { staged } [.failedToStart reason, .closed]).1.stream =
      .destroyed (some (.cannotStart command reason)) := by
  simp [State.run, State.step, State.breakOff, Stream.isDestroyed]

/-- What is read from a stream: the archive, unless the stream was broken off with an error. -/
theorem output_of_run_read {p : Packing} {s s' : Session} {output : Except ClientError Content}
    (h : p.read.run s = (.ok output, s')) :
    output =
      (State.run p.command { staged := p.staging.isSome } p.events).1.stream.error?.elim
        (.ok p.content) .error := by
  obtain ⟨final, s₁, hfinal, h⟩ := Action.ok_of_run_bind h
  obtain ⟨s₂, hrun, -⟩ := run_after p p.events s
  rw [hrun, Prod.mk.injEq, Except.ok.injEq] at hfinal
  obtain ⟨rfl, rfl⟩ := hfinal
  generalize (State.run _ _ _).1.stream = stream at h ⊢
  cases stream with
  | flowing => cases h; rfl
  | ended => cases h; rfl
  | destroyed error =>
    cases error with
    | none => cases h; rfl
    | some error => cases h; rfl

/-! ### Starting the archiver -/

/-- What packing begins with that comes of a start of the archiver. -/
def Start.packing (command : String) (staging : Option Location) : Start → Except Failure Packing
  | .refused failure => .error failure
  | .failed reason => .ok ⟨command, staging, [.failedToStart reason, .closed], .bytes []⟩
  | .running outcome => .ok ⟨command, staging, outcome.events, outcome.content⟩

/-- It keeps the command and what was staged. -/
theorem eq_of_packing {command : String} {staging : Option Location} {started : Start}
    {packing : Packing} (h : started.packing command staging = .ok packing) :
    packing.command = command ∧ packing.staging = staging := by
  cases started with
  | refused failure => cases h
  | failed reason | running outcome =>
    cases h
    exact ⟨rfl, rfl⟩

/-- The system refuses a start, or lets it be. -/
theorem startUnless_cases (refusal : Option Failure) (tree : FileTree) (command : String)
    (arguments : List String) :
    startUnless refusal tree command arguments = start tree command arguments ∨
      ∃ failure, refusal = some failure ∧
        startUnless refusal tree command arguments = .refused failure := by
  unfold startUnless
  split
  · rename_i failure _
    exact .inr ⟨failure, rfl, rfl⟩
  · exact .inl rfl

/-- Packing begins with a start of the archiver, over the files that staging leaves and with the
    arguments for what it made, unless staging fails already. -/
theorem run_startPacking (command : String) (request : PackRequest) (s : Session) :
    (∃ failure s₁, (stageFor request).run s = (.error failure, s₁) ∧
      (startPacking command request).run s = (.error failure, s₁)) ∨
    ∃ staged s₁ s₂, (stageFor request).run s = (.ok staged, s₁) ∧ s₂.files = s₁.files ∧
      (startPacking command request).run s =
        ((startUnless (s₁.refusal? command (arguments request.contextRoot (staged.map (·.path))
          request.resolved.contextRelativePath)) s₁.files command
          (arguments request.contextRoot (staged.map (·.path))
            request.resolved.contextRelativePath)).packing command (staged.map (·.directory)), s₂) := by
  unfold startPacking
  rw [Action.run_bind]
  generalize (stageFor request).run s = result
  obtain ⟨outcome, s₁⟩ := result
  cases outcome with
  | error failure => exact .inl ⟨failure, s₁, rfl, rfl⟩
  | ok staged =>
    refine .inr ⟨staged, s₁, ?_⟩
    obtain ⟨s₂, htold⟩ : ∃ s₂, (Action.debug ("Packing build context " ++ request.contextRoot)).run s₁ =
        (.ok (), s₂) := ⟨_, Action.run_log _ s₁⟩
    have hfiles := Action.files_of_run_debug htold
    have hrefusal : s₂.refusal? = s₁.refusal? := by rw [Action.eq_of_run_debug htold]
    refine ⟨s₂, rfl, hfiles, ?_⟩
    simp only
    rw [Action.run_bind, htold]
    simp only
    rw [Action.run_get_bind, hfiles, hrefusal]
    generalize startUnless _ s₁.files command _ = started
    cases started <;> rfl

/-- A packed context has what was staged, and the files that staging left. -/
theorem ok_of_run_startPacking {command : String} {request : PackRequest} {s s' : Session}
    {packing : Packing} (h : (startPacking command request).run s = (.ok packing, s')) :
    ∃ staged s₁, (stageFor request).run s = (.ok staged, s₁) ∧ s'.files = s₁.files ∧
      (start s₁.files command (arguments request.contextRoot (staged.map (·.path))
        request.resolved.contextRelativePath)).packing command (staged.map (·.directory)) =
          .ok packing := by
  rcases run_startPacking command request s with ⟨failure, s₁, -, hrun⟩ |
    ⟨staged, s₁, s₂, hstaged, hfiles, hrun⟩
  · rw [hrun] at h
    cases h
  · rw [hrun, Prod.mk.injEq] at h
    obtain ⟨hpacking, rfl⟩ := h
    refine ⟨staged, s₁, hstaged, hfiles, ?_⟩
    rcases startUnless_cases (s₁.refusal? command _) s₁.files command _ with hstart | ⟨_, -, hrefused⟩
    · rwa [hstart] at hpacking
    · rw [hrefused] at hpacking
      cases hpacking

/-- **One launch.** A packed context is what comes of one start of the archiver, over the files that
    staging leaves and with the arguments for what it made. -/
theorem pack_eq_ok {command : String} {request : PackRequest} {s s' : Session} {body : Body}
    (h : (pack command request).run s = (.ok body, s')) :
    ∃ staged s₁ output,
      (stageFor request).run s = (.ok staged, s₁) ∧
      (start s₁.files command (arguments request.contextRoot (staged.map (·.path))
        request.resolved.contextRelativePath)).output command = .ok output ∧
      body = .archive output := by
  obtain ⟨packing, s₂, hpacking, h⟩ := Action.ok_of_run_bind h
  obtain ⟨output, s₃, houtput, h⟩ := Action.ok_of_run_bind h
  cases h
  obtain ⟨staged, s₁, hstaged, -, hpacking⟩ := ok_of_run_startPacking hpacking
  refine ⟨staged, s₁, output, hstaged, ?_, rfl⟩
  have hread := output_of_run_read houtput
  generalize start s₁.files command _ = started at hpacking ⊢
  -- however the archiver starts, the events that follow are those of reading to the end
  cases started with
  | refused failure => cases hpacking
  | failed reason =>
    cases hpacking
    rw [stream_of_failedToStart] at hread
    rw [hread]
    rfl
  | running outcome =>
    cases hpacking
    rw [stream_of_exited] at hread
    rw [hread, Start.output, Outcome.output]
    split <;> rfl

end ImageBuild.Archive
