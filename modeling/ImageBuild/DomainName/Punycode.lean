import ImageBuild.Text.Split

namespace ImageBuild.DomainName.Punycode

/-!
# Punycode — labels with characters beyond ASCII written in ASCII

The ASCII characters of a label come first; a hyphen ends them.  Then follows, for each other
character in ascending order, how many steps there are from the place of the one before to its own,
where all places of one character are passed before the next character comes.  These numbers are
written in digits whose base depends on the numbers before.
-/

/-- A digit. -/
def digit (d : Nat) : Char := Char.ofNat (if d < 26 then 'a'.toNat + d else '0'.toNat + (d - 26))

/-- The value of a digit. -/
def digitValue? (c : Char) : Option Nat :=
  if 'a' ≤ c ∧ c ≤ 'z' then some (c.toNat - 'a'.toNat)
  else if '0' ≤ c ∧ c ≤ '9' then some (c.toNat - '0'.toNat + 26)
  else none

/-- The least digit at a place of a number that another digit follows.  Places are counted in steps
    of 36. -/
def threshold (bias place : Nat) : Nat :=
  if place ≤ bias then 1 else if bias + 26 ≤ place then 26 else place - bias

/-- The bias that a number makes, scaled down until it is small. -/
def scaledBias : (rounds delta bias : Nat) → Nat
  | 0, delta, bias => bias + 36 * delta / (delta + 38)
  | rounds + 1, delta, bias =>
    if 455 < delta then scaledBias rounds (delta / 35) (bias + 36)
    else bias + 36 * delta / (delta + 38)

/-- The bias after a number, with so many characters written. -/
def adapt (delta count : Nat) (first : Bool) : Nat :=
  let delta := if first then delta / 700 else delta / 2
  let delta := delta + delta / count
  scaledBias delta.log2 delta 0

/-! ### Writing -/

/-- The digits of a number.  `rounds` bounds how many there are. -/
def number (bias : Nat) : (rounds place n : Nat) → List Char
  | 0, _, _ => []
  | rounds + 1, place, n =>
    let t := threshold bias place
    if n < t then [digit n]
    else digit (t + (n - t) % (36 - t)) :: number bias rounds (place + 36) ((n - t) / (36 - t))

/-- What has been written of a label. -/
structure Writer where
  output : List Char := []
  /-- The steps since the last place. -/
  delta : Nat := 0
  bias : Nat := 72
  /-- How many characters are written. -/
  count : Nat

/-- The writer after it passes a place at which `c` stands, on its way to the places of `target`. -/
def Writer.pass (basic target : Nat) (w : Writer) (c : Char) : Writer :=
  if c.toNat < target then { w with delta := w.delta + 1 }
  else if c.toNat = target then
    { output := w.output ++ number w.bias (w.delta + 1) 36 w.delta
      delta := 0
      bias := adapt w.delta (w.count + 1) (w.count == basic)
      count := w.count + 1 }
  else w

/-- The writer after all places of the given codes, which ascend. -/
def writeFrom (label : List Char) (basic : Nat) : List Nat → (next : Nat) → Writer → Writer
  | [], _, w => w
  | target :: targets, next, w =>
    let w := { w with delta := w.delta + (target - next) * (w.count + 1) }
    let w := label.foldl (Writer.pass basic target) w
    writeFrom label basic targets (target + 1) { w with delta := w.delta + 1 }

/-- A label in ASCII. -/
def encode (label : List Char) : List Char :=
  let plain := label.filter (·.toNat < 0x80)
  let codes := ((label.map Char.toNat).filter (0x80 ≤ ·)).eraseDups.mergeSort
  let front := if plain.isEmpty then [] else plain ++ ['-']
  front ++ (writeFrom label plain.length codes 0x80 { count := plain.length }).output

/-! ### Reading -/

/-- A number is too large when it does not fit into 31 bits. -/
def limit : Nat := 0x7FFFFFFF

/-- The sum of `start` and the number at the front of a text, and what follows it. -/
def number? (bias : Nat) : (place weight start : Nat) → List Char → Option (Nat × List Char)
  | _, _, _, [] => none
  | place, weight, start, c :: s => do
    let d ← digitValue? c
    let sum := start + d * weight
    if limit < sum then none
    else
      let t := threshold bias place
      if d < t then return (sum, s)
      else if limit < weight * (36 - t) then none
      else number? bias (place + 36) (weight * (36 - t)) sum s

/-- What has been read of a label. -/
structure Reader where
  output : List Char
  /-- The place after the last character that was put in. -/
  place : Nat := 0
  /-- The code of the last character that was put in. -/
  code : Nat := 0x80
  bias : Nat := 72

/-- The reader after a number. -/
def Reader.step? (r : Reader) (sum : Nat) : Option Reader :=
  let count := r.output.length + 1
  let code := r.code + sum / count
  let place := sum % count
  if (0xD800 ≤ code ∧ code < 0xE000) ∨ 0x10FFFF < code then none
  else
    some
      { output := r.output.take place ++ Char.ofNat code :: r.output.drop place
        place := place + 1
        code
        bias := adapt (sum - r.place) count (r.place == 0) }

/-- The label that numbers make of what has been read.  `rounds` bounds how many there are. -/
def readFrom : (rounds : Nat) → Reader → List Char → Option (List Char)
  | _, r, [] => some r.output
  | 0, _, _ => none
  | rounds + 1, r, s => do
    let (sum, s) ← number? r.bias 36 1 r.place s
    readFrom rounds (← r.step? sum) s

/-- The label that a text in ASCII stands for. -/
def decode? (s : List Char) : Option (List Char) :=
  let pieces := Text.split (· == '-') s
  let plain := Text.join '-' pieces.dropLast
  readFrom s.length { output := plain } (pieces.getLast?.getD [])

end ImageBuild.DomainName.Punycode
