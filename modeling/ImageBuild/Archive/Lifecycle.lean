import ImageBuild.Error
import ImageBuild.Log.Line

namespace ImageBuild.Archive

/-!
# The lifecycle of an archive — from the start of the archiver to the end of its stream

Once the archiver has been started, four things can happen, in any order that the operating system
and the reader of the stream bring about: the archiver turns out not to run, it exits, the reader
gives up the stream, and the stream closes.  `State.step` says what each of them does to the staging
directory, the archiver and the stream.
-/

/-- How far the stream of an archive is. -/
inductive Stream
  | flowing
  /-- All was written. -/
  | ended
  /-- The stream was broken off, by an error or by its reader. -/
  | destroyed (error : Option ClientError)
deriving DecidableEq, Repr

/-- Whether a stream was broken off. -/
def Stream.isDestroyed : Stream → Bool
  | .destroyed _ => true
  | _ => false

/-- What can happen once the archiver has been started. -/
inductive Event
  /-- The archiver turns out not to run. -/
  | failedToStart (reason : String)
  /-- The archiver exits with a code, or without one when it was killed. -/
  | exited (code : Option Nat) (complaint : String)
  /-- The reader gives up the stream. -/
  | abandoned
  /-- The stream closes, after it was broken off or read to its end. -/
  | closed
deriving DecidableEq, Repr

/-- What a started archiver has brought about. -/
structure State where
  /-- Whether the staging directory is there. -/
  staged : Bool
  /-- Whether the archiver is known not to run any more. -/
  exited : Bool := false
  /-- How often the archiver was told to stop. -/
  kills : Nat := 0
  stream : Stream := .flowing
deriving DecidableEq, Repr

namespace State

/-- The stream broken off by an error, unless it was broken off before. -/
def breakOff (s : State) (error : ClientError) : State :=
  if s.stream.isDestroyed then s else { s with stream := .destroyed (some error) }

/-- The state after an event, for an archiver of the name `command`. -/
def step (command : String) (s : State) : Event → State
  | .failedToStart reason =>
    { s with exited := true, staged := false }.breakOff (.cannotStart command reason)
  | .exited code complaint =>
    let s := { s with exited := true, staged := false }
    if s.stream.isDestroyed then s
    else if code = some 0 then { s with stream := .ended }
    else s.breakOff (.archiverFailed command code complaint)
  | .abandoned => if s.stream.isDestroyed then s else { s with stream := .destroyed none }
  | .closed =>
    { s with staged := false, kills := if s.exited then s.kills else s.kills + 1 }

/-- What there is to tell about an event. -/
def notice (command : String) (s : State) : Event → List Log.Line
  | .closed =>
    if s.exited then []
    else [⟨.debug, "Build context stream closed early, stopping " ++ command⟩]
  | _ => []

/-- The state after a sequence of events, and what there is to tell about them. -/
def run (command : String) (s : State) : List Event → State × List Log.Line
  | [] => (s, [])
  | event :: events =>
    let (final, told) := run command (s.step command event) events
    (final, s.notice command event ++ told)

end State

end ImageBuild.Archive
