import ImageBuild.Error
import ImageBuild.Json.Numeric
import ImageBuild.Log.Line
import ImageBuild.Number.Decimal
import ImageBuild.Number.Power

namespace ImageBuild

/-!
# Retries — repeating requests that failed for want of a ready daemon

A request is repeated while its failure may pass: the daemon did not answer, asked for patience, or
failed itself.  Between two attempts there is a delay that doubles each time, of which a random part
between none and half is taken off.
-/

/-- Whether the daemon's status says that the same request may succeed later.  A status that is no
    number counts as one only where it is compared with the least one of a failed daemon. -/
def isPassingStatus (status : Option Json) : Bool :=
  match status with
  | some (.number n) => n == 408 || n == 429 || Number.le 500 n
  | some status => Number.le 500 status.numeric
  | none => false

/-- Whether a request that failed is worth repeating. -/
def Failure.isWorthRetry (f : Failure) : Bool :=
  match f with
  | .client _ => false
  | f =>
    match f.answer? with
    | none => true
    | some status => isPassingStatus status

namespace Retry

/-- One half. -/
def half : Number := .finite (mkRat 1 2)

/-- The delay before jitter: the base doubled `attempt` times. -/
def fullDelay (round : Rat → Number) (base attempt : Number)
    (twoToThe : Number → Number := Number.twoToThe) : Number :=
  Number.mulWith round base (twoToThe attempt)

/-- The delay after a failed attempt, counted from zero: between half of the full delay and all of
    it as `draw` goes from zero to one, rounded to an integer. -/
def jitteredDelay (round : Rat → Number) (base attempt draw : Number)
    (twoToThe : Number → Number := Number.twoToThe) : Number :=
  Number.round <|
    Number.mulWith round (fullDelay round base attempt twoToThe)
      (Number.addWith round half (Number.mulWith round draw half))

/-- How often and how patiently to repeat. -/
structure Policy where
  /-- How many attempts there are; a part counts as a whole. -/
  attempts : Number
  /-- The delay to begin with, in milliseconds. -/
  baseDelay : Number
deriving DecidableEq, Repr

/-- No counter of attempts gets beyond this. -/
def mostAttempts : Nat := 9007199254740992

/-- The number of attempts. -/
def Policy.count (p : Policy) : Nat :=
  match p.attempts with
  | .finite q => q.ceil.toNat
  | .infinite negative => if negative then 0 else mostAttempts
  | .undefined => 0

/-- What repeating needs of its surroundings. -/
structure Surroundings (m : Type → Type) where
  /-- A random number between zero and one. -/
  draw : m Number
  tell : Log.Line → m Unit
  sleep : Number → m Unit

/-- The line that announces another attempt. -/
def announcement (p : Policy) (done : Nat) (delay : Number) : Log.Line :=
  { level := .debug
    message := "Daemon request failed (attempt " ++ toString (done + 1) ++ "/" ++
      p.attempts.text ++ "), retrying in " ++ delay.text ++ "ms" }

variable {m : Type → Type} [Monad m] {α : Type}

/-- The pause after `done` attempts and one more that failed.  How long it is follows from how many
    have failed before and from a random number. -/
def pause (delay : Number → Number → Number) (p : Policy) (s : Surroundings m) (done : Nat) :
    m Unit := do
  let draw ← s.draw
  let length := delay (.finite done) draw
  s.tell (announcement p done length)
  s.sleep length

/-- The outcome of at most `left` attempts, when `done` have failed before. -/
def attempt (delay : Number → Number → Number) (p : Policy) (s : Surroundings m)
    (call : m (Except Failure α)) : (left done : Nat) → m (Except Failure α)
  | 0, _ => pure (.error .nothing)
  | left + 1, done => do
    match ← call with
    | .ok a => pure (.ok a)
    | .error failure =>
      if failure.isWorthRetry && left != 0 then
        pause delay p s done
        attempt delay p s call left (done + 1)
      else pure (.error failure)

/-- The length of a pause, in double precision. -/
def doubleDelay (base attempt draw : Number) : Number :=
  jitteredDelay Number.nearest base attempt draw

/-- The outcome of a call that is repeated as the policy says. -/
def run (p : Policy) (s : Surroundings m) (call : m (Except Failure α)) : m (Except Failure α) :=
  attempt (doubleDelay p.baseDelay) p s call p.count 0

end Retry

end ImageBuild
