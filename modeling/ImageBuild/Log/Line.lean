import ImageBuild.Log.Mask

namespace ImageBuild.Log

/-!
# Log lines — what an operation tells its user

Every line but that of a success bears the time, and has its secrets masked.  Errors go to the error
channel, all else to the output.
-/

/-- The weight of a log line. -/
inductive Level
  | debug
  | info
  | warn
  | error
  | success
deriving DecidableEq, Repr

/-- A message and its weight. -/
structure Line where
  level : Level
  message : String
deriving DecidableEq, Repr

/-- A point in local time. -/
structure Time where
  year : Nat
  month : Nat
  day : Nat
  hour : Nat
  minute : Nat
  second : Nat
deriving DecidableEq, Repr

/-- Where a line is written. -/
inductive Channel
  | output
  | error
deriving DecidableEq, Repr

/-- A number with at least two digits. -/
def twoDigits (n : Nat) : String := if n < 10 then "0" ++ toString n else toString n

/-- A point in time as text. -/
def Time.text (t : Time) : String :=
  toString t.year ++ "-" ++ twoDigits t.month ++ "-" ++ twoDigits t.day ++ " " ++
    twoDigits t.hour ++ ":" ++ twoDigits t.minute ++ ":" ++ twoDigits t.second

/-- The colours of a terminal. -/
inductive Colour
  | red
  | green
  | yellow
  | blue
  | grey
deriving DecidableEq, Repr

/-- The number of a colour in terminal control sequences. -/
def Colour.code : Colour → String
  | .red => "31"
  | .green => "32"
  | .yellow => "33"
  | .blue => "34"
  | .grey => "90"

/-- A text in a colour. -/
def Colour.paint (colour : Colour) (text : String) : String :=
  "\x1b[" ++ colour.code ++ "m" ++ text ++ "\x1b[0m"

/-- The label of a level, padded to one width, and its colour. -/
def Level.label : Level → String × Colour
  | .debug => ("DEBUG", .blue)
  | .info => ("INFO ", .green)
  | .warn => ("WARN ", .yellow)
  | .error => ("ERROR", .red)
  | .success => ("✓", .green)

namespace Line

/-- Where a line is written. -/
def channel (line : Line) : Channel :=
  match line.level with
  | .error => .error
  | _ => .output

/-- Whether a line is written at all: those for debugging only on demand. -/
def isShown (verbose : Bool) (line : Line) : Bool := verbose || line.level != .debug

/-- The text of a line. -/
def text (time : Time) (line : Line) : String :=
  let (label, colour) := line.level.label
  match line.level with
  | .success => colour.paint label ++ " " ++ line.message ++ "\n"
  | _ =>
    Colour.grey.paint ("[" ++ time.text ++ "]") ++ " " ++ colour.paint label ++ " " ++
      mask line.message ++ "\n"

end Line

end ImageBuild.Log
