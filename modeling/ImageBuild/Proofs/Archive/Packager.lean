import ImageBuild.Archive.Packager
import ImageBuild.Proofs.Session

namespace ImageBuild.Archive

/-!
# Packing is quiet — packing a context asks nothing of anyone else

Staging a Dockerfile, starting the archiver and reading its stream to the end change files and tell
what happens.  Nothing but log lines is recorded by them (`appends_pack`), however packing ends.
-/

variable {P : Effect → Prop}

/-- Staging a Dockerfile records nothing but log lines. -/
theorem appends_stageFor (hlog : ∀ line, P (.log line)) (request : PackRequest) :
    Action.Appends P (stageFor request) := by
  unfold stageFor
  split
  · rename_i source placeholder _ _
    split
    · exact Action.appends_pure none
    · -- The files are set in the session that was looked at before, so this is followed by hand.
      intro s
      rw [Action.run_get_bind, Action.run_set_bind]
      refine ((Action.appends_ofExcept _).bind fun staged => ?_) _
      exact (Action.appends_debug hlog _).bind fun _ => Action.appends_pure (some staged)
  · exact Action.appends_pure none

/-- Starting to pack records nothing but log lines. -/
theorem appends_startPacking (hlog : ∀ line, P (.log line)) (command : String)
    (request : PackRequest) : Action.Appends P (startPacking command request) := by
  refine (appends_stageFor hlog request).bind fun staged => ?_
  refine (Action.appends_debug hlog _).bind fun _ => ?_
  refine Action.appends_get.bind fun s => ?_
  split
  · exact Action.appends_throw _
  · exact Action.appends_pure _
  · exact Action.appends_pure _

/-- What happens to a stream records nothing but log lines. -/
theorem appends_after (hlog : ∀ line, P (.log line)) (p : Packing) (events : List Event) :
    Action.Appends P (p.after events) := by
  have htell : ∀ (final : State) (told : List Log.Line),
      Action.Appends P (do Action.logAll told; return final) :=
    fun final told => (Action.appends_logAll hlog told).bind fun _ => Action.appends_pure final
  unfold Packing.after
  cases p.staging with
  | none => exact htell _ _
  | some directory =>
    simp only
    split
    · refine Action.Appends.bind ?_ fun _ => htell _ _
      exact Action.appends_modify fun _ => rfl
    · exact htell _ _

/-- Reading a stream to its end records nothing but log lines. -/
theorem appends_read (hlog : ∀ line, P (.log line)) (p : Packing) : Action.Appends P p.read := by
  refine (appends_after hlog p p.events).bind fun final => ?_
  split <;> exact Action.appends_pure _

/-- **Packing is quiet.** Packing a context records nothing but log lines, whether it succeeds or
    not. -/
theorem appends_pack (hlog : ∀ line, P (.log line)) (command : String) (request : PackRequest) :
    Action.Appends P (pack command request) := by
  refine (appends_startPacking hlog command request).bind fun packing => ?_
  exact (appends_read hlog packing).bind fun content => Action.appends_pure _

end ImageBuild.Archive
