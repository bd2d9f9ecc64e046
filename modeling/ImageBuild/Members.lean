namespace ImageBuild

/-!
# Members — the named values of an object, in the order in which they are listed

Names that are canonical array indices come first, in ascending order; all other names follow in
the order in which they were first given.  Giving a name again replaces its value in place.  The
reserved name is never stored by `assign`.
-/

/-- Named values in the order in which they are listed. -/
abbrev Members (α : Type) := List (String × α)

namespace Members

variable {α : Type}

/-- The name under which nothing can be assigned. -/
def reservedName : String := "__proto__"

/-- The index that a name spells canonically: decimal digits without a leading zero, below
    `2 ^ 32 - 1`. -/
def index? (name : String) : Option Nat :=
  match name.toList with
  | [] => none
  | ['0'] => some 0
  | '0' :: _ => none
  | cs =>
    if cs.all Char.isDigit && cs.length ≤ 10 then
      let n := cs.foldl (fun n c => 10 * n + (c.toNat - '0'.toNat)) 0
      if n < 4294967295 then some n else none
    else none

/-- Whether a listed name comes before the index `i`. -/
def isIndexBelow (i : Nat) (name : String) : Bool :=
  match index? name with
  | some j => j < i
  | none => false

/-- The names, in order. -/
def names (ms : Members α) : List String := ms.map (·.1)

/-- The value under a name. -/
def get? (ms : Members α) (name : String) : Option α := ms.lookup name

/-- Whether a name is listed. -/
def has (ms : Members α) (name : String) : Bool := (ms.get? name).isSome

/-- The members with the value under a listed name replaced. -/
def replace (ms : Members α) (name : String) (value : α) : Members α :=
  ms.map fun m => if m.1 == name then (name, value) else m

/-- The members with one more, under a name that is not listed yet. -/
def place (ms : Members α) (name : String) (value : α) : Members α :=
  match index? name with
  | some i =>
    ms.takeWhile (fun m => isIndexBelow i m.1) ++
      (name, value) :: ms.dropWhile (fun m => isIndexBelow i m.1)
  | none => ms ++ [(name, value)]

/-- The members after a name is given a value. -/
def insert (ms : Members α) (name : String) (value : α) : Members α :=
  if ms.has name then ms.replace name value else ms.place name value

/-- The members without a name. -/
def erase (ms : Members α) (name : String) : Members α := ms.filter (·.1 != name)

/-- The members that a list of pairs gives, a later pair replacing an earlier one of its name. -/
def ofPairs (pairs : List (String × α)) : Members α :=
  pairs.foldl (fun ms p => ms.insert p.1 p.2) []

/-- Like `insert`, but the reserved name is passed over. -/
def assign (ms : Members α) (name : String) (value : α) : Members α :=
  if name == reservedName then ms else ms.insert name value

end Members

end ImageBuild
