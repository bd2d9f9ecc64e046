import Mathlib.Data.List.Induction
import ImageBuild.Proofs.Archive.Launch

namespace ImageBuild.Archive

/-!
# The lifecycle of an archive — what every order of events leaves

The archiver may fail to start, exit, be abandoned by its reader and have its stream closed in many
orders.  `IsHistory` says which, and each of the four things that `State.step` keeps track of hangs on
the events that have happened in a simple way:

* `staged_after` — the staging directory is there until the first event that cleans up.
* `kills_after` — the archiver is told to stop when the stream closes while it is running.
* `isDestroyed_after`, `ended_after_iff` — the stream is broken off by some events, and ends when the
  archiver exits with 0 before any of them.
* `lifecycle_of_history` — all of it, for the files of a packed context as well.
-/

/-! ### Events -/

namespace Event

/-- The archiver does not run any more. -/
def endsArchiver : Event → Bool
  | .failedToStart _ | .exited .. => true
  | .abandoned | .closed => false

/-- The staging directory is not needed any more. -/
def cleansUp : Event → Bool
  | .failedToStart _ | .exited .. | .closed => true
  | .abandoned => false

/-- The stream does not end as it should. -/
def breaksOff : Event → Bool
  | .failedToStart _ | .abandoned => true
  | .exited code _ => code != some 0
  | .closed => false

end Event

/-! ### Steps -/

section Steps

variable (command : String) (s : State) (event : Event)

/-- An event that cleans up removes the staging directory, and the others leave it. -/
theorem staged_step : (s.step command event).staged = (s.staged && !event.cleansUp) := by
  cases event with
  | failedToStart reason => simp [State.step, State.breakOff, Event.cleansUp, apply_ite State.staged]
  | exited code complaint =>
    simp [State.step, State.breakOff, Event.cleansUp, apply_ite State.staged]
  | abandoned => simp [State.step, Event.cleansUp, apply_ite State.staged]
  | closed => simp [State.step, Event.cleansUp]

/-- The archiver is known not to run after an event that ends it. -/
theorem exited_step : (s.step command event).exited = (s.exited || event.endsArchiver) := by
  cases event with
  | failedToStart reason =>
    simp [State.step, State.breakOff, Event.endsArchiver, apply_ite State.exited]
  | exited code complaint =>
    simp [State.step, State.breakOff, Event.endsArchiver, apply_ite State.exited]
  | abandoned => simp [State.step, Event.endsArchiver, apply_ite State.exited]
  | closed => simp [State.step, Event.endsArchiver]

/-- The archiver is told to stop when the stream closes while it is running, and only then. -/
theorem kills_step : (s.step command event).kills =
    if event = .closed ∧ s.exited = false then s.kills + 1 else s.kills := by
  cases event with
  | failedToStart reason => simp [State.step, State.breakOff, apply_ite State.kills]
  | exited code complaint => simp [State.step, State.breakOff, apply_ite State.kills]
  | abandoned => simp [State.step, apply_ite State.kills]
  | closed => cases hexited : s.exited <;> simp [State.step, hexited]

/-- A stream that was broken off keeps its error, whatever happens. -/
theorem stream_step_of_destroyed {error : Option ClientError} (h : s.stream = .destroyed error) :
    (s.step command event).stream = .destroyed error := by
  cases event <;> simp [State.step, State.breakOff, Stream.isDestroyed, h]

/-- A stream that was not is broken off with an error when the archiver turns out not to run. -/
theorem stream_step_failedToStart (h : s.stream.isDestroyed = false) (reason : String) :
    (s.step command (.failedToStart reason)).stream =
      .destroyed (some (.cannotStart command reason)) := by
  simp [State.step, State.breakOff, h]

/-- It ends when the archiver exits with 0, and is broken off with an error otherwise. -/
theorem stream_step_exited (h : s.stream.isDestroyed = false) (code : Option Nat)
    (complaint : String) :
    (s.step command (.exited code complaint)).stream =
      if code = some 0 then .ended
      else .destroyed (some (.archiverFailed command code complaint)) := by
  by_cases hcode : code = some 0 <;> simp [State.step, State.breakOff, h, hcode]

/-- It is broken off without an error when its reader gives it up. -/
theorem stream_step_abandoned (h : s.stream.isDestroyed = false) :
    (s.step command .abandoned).stream = .destroyed none := by
  simp [State.step, h]

/-- The events that break off a stream are those after which it is. -/
theorem isDestroyed_step : (s.step command event).stream.isDestroyed =
    (s.stream.isDestroyed || event.breaksOff) := by
  cases hstream : s.stream with
  | destroyed error =>
    rw [stream_step_of_destroyed command s event hstream]
    rfl
  | flowing | ended =>
    have hkept : s.stream.isDestroyed = false := by rw [hstream]; rfl
    cases event with
    | failedToStart reason => rw [stream_step_failedToStart command s hkept]; rfl
    | exited code complaint =>
      rw [stream_step_exited command s hkept]
      by_cases hcode : code = some 0 <;> simp [hcode, Stream.isDestroyed, Event.breaksOff]
    | abandoned => rw [stream_step_abandoned command s hkept]; rfl
    | closed =>
      show s.stream.isDestroyed = _
      rw [hstream]
      rfl

/-- A stream has ended when it had before or the archiver exits with 0, and nothing breaks it off. -/
theorem ended_step_iff : (s.step command event).stream = .ended ↔
    (s.stream = .ended ∨ ∃ complaint, event = .exited (some 0) complaint) ∧
      s.stream.isDestroyed = false ∧ event.breaksOff = false := by
  cases hdestroyed : s.stream.isDestroyed with
  | true =>
    have hbroken : (s.step command event).stream.isDestroyed = true := by
      rw [isDestroyed_step, hdestroyed, Bool.true_or]
    constructor
    · intro h
      rw [h] at hbroken
      cases hbroken
    · rintro ⟨-, h, -⟩
      cases h
  | false =>
    cases event with
    | failedToStart reason => simp [stream_step_failedToStart command s hdestroyed, Event.breaksOff]
    | exited code complaint =>
      rw [stream_step_exited command s hdestroyed]
      by_cases hcode : code = some 0 <;> simp [hcode, Event.breaksOff]
    | abandoned => simp [stream_step_abandoned command s hdestroyed, Event.breaksOff]
    | closed => simp [State.step, Event.breaksOff]

end Steps

/-! ### Runs -/

/-- The state of an archive after some events. -/
def after (command : String) (staged : Bool) (events : List Event) : State :=
  (State.run command { staged } events).1

section Runs

variable (command : String) (staged : Bool) (events : List Event)

/-- One more event is one more step. -/
theorem after_concat (event : Event) :
    after command staged (events ++ [event]) = (after command staged events).step command event := by
  unfold after
  generalize ({ staged } : State) = s
  induction events generalizing s with
  | nil => rfl
  | cons first events ih => exact ih (s.step command first)

/-- The staging directory is there until the first event that cleans up. -/
theorem staged_after :
    (after command staged events).staged = (staged && events.all (!·.cleansUp)) := by
  induction events using List.reverseRecOn with
  | nil => simp [after, State.run]
  | append_singleton events event ih => simp [after_concat, staged_step, ih, Bool.and_assoc]

/-- The archiver is known not to run after the first event that ends it. -/
theorem exited_after : (after command staged events).exited = events.any (·.endsArchiver) := by
  induction events using List.reverseRecOn with
  | nil => rfl
  | append_singleton events event ih => simp [after_concat, exited_step, ih]

/-- The stream is broken off after the first event that does so. -/
theorem isDestroyed_after :
    (after command staged events).stream.isDestroyed = events.any (·.breaksOff) := by
  induction events using List.reverseRecOn with
  | nil => rfl
  | append_singleton events event ih => simp [after_concat, isDestroyed_step, ih]

/-- The stream has ended when the archiver has exited with 0 and nothing has broken it off. -/
theorem ended_after_iff : (after command staged events).stream = .ended ↔
    (∃ complaint, .exited (some 0) complaint ∈ events) ∧
      ∀ event ∈ events, event.breaksOff = false := by
  induction events using List.reverseRecOn with
  | nil => simp [after, State.run]
  | append_singleton events event ih =>
    have hkept : (after command staged events).stream.isDestroyed = false ↔
        ∀ event ∈ events, event.breaksOff = false := by
      rw [isDestroyed_after, List.any_eq_false]
      simp
    have hconcat : (∀ event' ∈ events ++ [event], event'.breaksOff = false) ↔
        (∀ event' ∈ events, event'.breaksOff = false) ∧ event.breaksOff = false := by
      simp [or_imp, forall_and]
    rw [after_concat, ended_step_iff, ih, hkept, hconcat]
    constructor
    · rintro ⟨⟨hended, -⟩ | ⟨complaint, rfl⟩, hpast, hevent⟩
      · obtain ⟨complaint, hended⟩ := hended
        exact ⟨⟨complaint, List.mem_append_left _ hended⟩, hpast, hevent⟩
      · exact ⟨⟨complaint, by simp⟩, hpast, hevent⟩
    · rintro ⟨⟨complaint, hended⟩, hpast, hevent⟩
      rcases List.mem_append.1 hended with hended | hended
      · exact ⟨.inl ⟨⟨complaint, hended⟩, hpast⟩, hpast, hevent⟩
      · exact ⟨.inr ⟨complaint, (List.mem_singleton.1 hended).symm⟩, hpast, hevent⟩

end Runs

/-! ### Histories -/

/-- Whether an event can come after some others: the archiver turns out not to run at most once, and
    not once it has exited; it exits at most once; and the stream closes at most once, after it was
    broken off or has ended and was read. -/
def CanFollow (command : String) (staged : Bool) (past : List Event) : Event → Prop
  | .failedToStart _ => ∀ event ∈ past, event.endsArchiver = false
  | .exited _ _ => ∀ code complaint, .exited code complaint ∉ past
  | .abandoned => True
  | .closed => (after command staged past).stream ≠ .flowing ∧ .closed ∉ past

/-- The orders in which events can happen. -/
inductive IsHistory (command : String) (staged : Bool) : List Event → Prop
  | nil : IsHistory command staged []
  | concat {past : List Event} {event : Event} (hpast : IsHistory command staged past)
    (hevent : CanFollow command staged past event) : IsHistory command staged (past ++ [event])

/-- What is taken from the front of a list stays the same behind a member that ends it. -/
theorem takeWhile_append_of_mem {p : Event → Bool} {events more : List Event} {event : Event}
    (hmem : event ∈ events) (hends : p event = false) :
    (events ++ more).takeWhile p = events.takeWhile p := by
  have hlength : (events.takeWhile p).length ≠ events.length := by
    intro hlength
    have hall := List.takeWhile_eq_self_iff.1 ((List.takeWhile_prefix p).eq_of_length hlength)
    rw [hall event hmem] at hends
    cases hends
  rw [List.takeWhile_append, if_neg hlength]

/-- The archiver has been told to stop once if the stream closed while it was running, and never
    otherwise. -/
theorem kills_after {command : String} {staged : Bool} {events : List Event}
    (h : IsHistory command staged events) : (after command staged events).kills =
      if .closed ∈ events.takeWhile (!·.endsArchiver) then 1 else 0 := by
  induction h with
  | nil => rfl
  | @concat past event hpast hevent ih =>
    rw [after_concat, kills_step, exited_after, ih]
    cases hended : past.any (·.endsArchiver) with
    | true =>
      -- nothing is told to an archiver that is known not to run
      obtain ⟨first, hfirst, hends⟩ := List.any_eq_true.1 hended
      rw [takeWhile_append_of_mem hfirst (by simp [hends])]
      simp
    | false =>
      have hruns : ∀ earlier ∈ past, (!earlier.endsArchiver) = true := by
        simpa using hended
      rw [List.takeWhile_append_of_pos hruns, List.takeWhile_eq_self_iff.2 hruns]
      cases event with
      | closed => simp [hevent.2, Event.endsArchiver]
      | _ => simp [Event.endsArchiver]

/-! ### Packed contexts -/

/-- How a packed context stands after some events, with the files that were there when the archiver
    had been started and those that are there now. -/
structure Stands (packing : Packing) (started now : FileTree) (events : List Event) (state : State) :
    Prop where
  /-- The state is the one that the events lead to, one by one. -/
  state_eq : state = after packing.command packing.staging.isSome events
  /-- The staging directory is there until the first event that cleans up, and never afterwards. -/
  node?_staging : ∀ directory ∈ packing.staging, now.node? directory =
    if events.any (·.cleansUp) then none else some .directory
  /-- With it goes what is in it, and no other file changes. -/
  files_eq : now =
    if events.any (·.cleansUp) then packing.staging.elim started started.remove else started
  /-- The archiver is told to stop at most once. -/
  kills_le : state.kills ≤ 1
  /-- This is when the stream closes before any event that ends the archiver. -/
  kills_eq : state.kills = if .closed ∈ events.takeWhile (!·.endsArchiver) then 1 else 0
  /-- It is told nothing any more once it has ended. -/
  kills_step_of_ended : ∀ first ∈ events, first.endsArchiver = true → ∀ event,
    (state.step packing.command event).kills = state.kills
  /-- The stream ends when the archiver exits with 0 and nothing breaks it off. -/
  ended_iff : state.stream = .ended ↔
    (∃ complaint, .exited (some 0) complaint ∈ events) ∧ ∀ event ∈ events, event.breaksOff = false
  /-- An archiver that does not run or exits otherwise breaks off a stream that was not, with an error
      about the context. -/
  stream_step_of_failure : state.stream.isDestroyed = false → ∀ event : Event,
    event.endsArchiver = true → event.breaksOff = true →
      ∃ error : ClientError, (state.step packing.command event).stream = .destroyed (some error) ∧
        error.kind = .context
  /-- A stream that was broken off is neither ended nor given another error. -/
  stream_step_of_destroyed : ∀ error, state.stream = .destroyed error → ∀ event,
    (state.step packing.command event).stream = .destroyed error

/-- The staging directory of a packed context is there when the archiver has been started. -/
theorem node?_staging_of_startPacking {command : String} {request : PackRequest} {s s' : Session}
    {packing : Packing} (h : (startPacking command request).run s = (.ok packing, s'))
    {directory : Location} (hdirectory : directory ∈ packing.staging) :
    directory ≠ [] ∧ s'.files.node? directory = some .directory := by
  obtain ⟨staged, s₁, hstaged, hfiles, hpacking⟩ := ok_of_run_startPacking h
  rw [(eq_of_packing hpacking).2] at hdirectory
  obtain ⟨made, rfl, rfl⟩ := Option.map_eq_some_iff.1 hdirectory
  obtain ⟨source, placeholder, -, hmade, htree⟩ := needsStaging_of_stageFor hstaged
  rw [hfiles, htree]
  exact node?_of_stage hmade

/-- What the events leave of the files: they are those that were there, without the staging directory
    once an event has cleaned up. -/
theorem files_after (p : Packing) (events : List Event) (s : Session) :
    ∃ s', (p.after events).run s = (.ok (after p.command p.staging.isSome events), s') ∧
      s'.files =
        if events.any (·.cleansUp) then p.staging.elim s.files s.files.remove else s.files := by
  obtain ⟨s', hrun, hfiles⟩ := run_after p events s
  refine ⟨s', hrun, hfiles.trans ?_⟩
  rw [← after, staged_after, ← List.not_any_eq_all_not]
  cases p.staging <;> cases events.any (·.cleansUp) <;> rfl

/-- **The lifecycle of an archive.** Once the archiver of a packed context has been started, the
    events that follow can come in any order: the staging directory is there until the first event
    that cleans up; the archiver is told to stop at most once, and only while it may be running; and
    the stream ends only when the archiver exits with 0 before anything has broken it off. -/
theorem lifecycle_of_history {command : String} {request : PackRequest} {s s₁ : Session}
    {packing : Packing} (hstart : (startPacking command request).run s = (.ok packing, s₁))
    {events : List Event} (h : IsHistory command packing.staging.isSome events) :
    packing.command = command ∧ ∃ state s₂, (packing.after events).run s₁ = (.ok state, s₂) ∧
      Stands packing s₁.files s₂.files events state := by
  obtain ⟨_, _, -, -, hpacking⟩ := ok_of_run_startPacking hstart
  obtain rfl := (eq_of_packing hpacking).1
  obtain ⟨s₂, hrun, hfiles⟩ := files_after packing events s₁
  refine ⟨rfl, _, s₂, hrun, ?_⟩
  have hkills := kills_after h
  exact {
    state_eq := rfl
    node?_staging := by
      intro directory hdirectory
      obtain ⟨hne, hthere⟩ := node?_staging_of_startPacking hstart hdirectory
      rw [hfiles, Option.mem_def.1 hdirectory]
      split
      · exact FileTree.node?_remove _ hne
      · exact hthere
    files_eq := hfiles
    kills_le := by
      rw [hkills]
      split <;> decide
    kills_eq := hkills
    kills_step_of_ended := by
      intro first hfirst hends event
      have hexited := exited_after packing.command packing.staging.isSome events
      rw [List.any_eq_true.2 ⟨first, hfirst, hends⟩] at hexited
      rw [kills_step, hexited]
      simp
    ended_iff := ended_after_iff _ _ _
    stream_step_of_failure := by
      intro hkept event hends hbreaks
      cases event with
      | failedToStart reason =>
        exact ⟨_, stream_step_failedToStart _ _ hkept reason, rfl⟩
      | exited code complaint =>
        have hcode : code ≠ some 0 := bne_iff_ne.1 hbreaks
        exact ⟨_, (stream_step_exited _ _ hkept code complaint).trans (if_neg hcode), rfl⟩
      | abandoned => cases hends
      | closed => cases hends
    stream_step_of_destroyed := fun error herror event =>
      stream_step_of_destroyed _ _ event herror }

/-- A context and a Dockerfile outside it. -/
def outsideFiles : FileTree :=
  ⟨[(["ctx"], .directory), (["tmp"], .directory), (["Dockerfile"], .file [] false)]⟩

/-- The request to pack them. -/
def outsideRequest : PackRequest :=
  ⟨"/ctx", { relocationSource := some "/Dockerfile", contextRelativePath := some "staged" }⟩

/-- The archiver is told to stop when its reader gives up the stream, and the Dockerfile that was
    staged is gone once the stream has closed. -/
theorem lifecycle_of_abandoned_stream :
    ∃ packing s₁ state s₂,
      (startPacking "tar" outsideRequest).run { files := outsideFiles } = (.ok packing, s₁) ∧
      packing.staging = some ["tmp", "container-build-XXXXXX"] ∧
      IsHistory "tar" packing.staging.isSome [.abandoned, .closed, .exited none ""] ∧
      (packing.after [.abandoned, .closed, .exited none ""]).run s₁ = (.ok state, s₂) ∧
      Stands packing s₁.files s₂.files [.abandoned, .closed, .exited none ""] state := by
  have hok : ((startPacking "tar" outsideRequest).run { files := outsideFiles }).1.toOption.map
      Packing.staging = some (some ["tmp", "container-build-XXXXXX"]) := by decide +kernel
  generalize hstart : (startPacking "tar" outsideRequest).run { files := outsideFiles } = result at hok
  obtain ⟨outcome, s₁⟩ := result
  cases outcome with
  | error failure => cases hok
  | ok packing =>
    have hstaging : packing.staging = some ["tmp", "container-build-XXXXXX"] := Option.some.inj hok
    have habandoned : IsHistory "tar" true [.abandoned] :=
      @IsHistory.concat "tar" true [] .abandoned .nil trivial
    have hclosed : IsHistory "tar" true [.abandoned, .closed] :=
      @IsHistory.concat "tar" true [.abandoned] .closed habandoned ⟨by decide, by decide⟩
    have hhistory : IsHistory "tar" packing.staging.isSome [.abandoned, .closed, .exited none ""] := by
      rw [hstaging]
      exact @IsHistory.concat "tar" true [.abandoned, .closed] (.exited none "") hclosed (by
        intro code complaint
        simp)
    obtain ⟨-, state, s₂, hrun, hstands⟩ := lifecycle_of_history hstart hhistory
    exact ⟨packing, s₁, state, s₂, rfl, hstaging, hhistory, hrun, hstands⟩

end ImageBuild.Archive
