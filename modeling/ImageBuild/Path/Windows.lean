import ImageBuild.Path.Segments
import ImageBuild.Text.LowerCase
import ImageBuild.Text.Units

namespace ImageBuild.Path.Windows

/-!
# Windows paths — drives, shares, devices and two separators

A path has a device (a drive such as `C:`, a share such as `\\server\share`, or a device name space
such as `\\?`), it is rooted or not, and it has a tail of names.  Both separators are read, `\` is
written.  `relative` compares without regard to letter case, keeps the letters of its target, and
gives the target itself when the two have no first name in common.

Some names stand for a device in every directory (`reservedNames`).  In front of a colon, `normalize`
reads such a name as a device of its own or puts `.\` in front of it, and `join` leaves the whole text
as it is.
-/

/-- Whether a character separates names. -/
def isSeparator (c : Char) : Bool := c == '/' || c == '\\'

/-- Whether a character names a drive. -/
def isDriveLetter (c : Char) : Bool := c.isAlpha

/-- A path cut into its device, whether a separator follows it, and the text after that. -/
structure Anchored where
  device : List Char
  rooted : Bool
  tail : List Char
deriving DecidableEq, Repr

/-- A path whose device is a share, a device name space or nothing: what stands after two leading
    separators, given without them.  Nothing when no device is named there. -/
def networkDevice? (rest : List Char) : Option Anchored :=
  let server := rest.takeWhile (!isSeparator ·)
  let gap := rest.dropWhile (!isSeparator ·)
  let named := gap.dropWhile isSeparator
  if server = [] ∨ gap = [] ∨ named = [] then none
  else if server = dot ∨ server = ['?'] then
    some { device := '\\' :: '\\' :: server, rooted := true, tail := rest.drop 2 }
  else
    let share := named.takeWhile (!isSeparator ·)
    some
      { device := '\\' :: '\\' :: server ++ '\\' :: share
        rooted := true
        tail := named.drop share.length }

/-- A path cut at its device. -/
def anchor (p : List Char) : Anchored :=
  match p with
  | [] => ⟨[], false, []⟩
  | [c] => if isSeparator c then ⟨[], true, []⟩ else ⟨[], false, [c]⟩
  | a :: b :: rest =>
    if isSeparator a then
      if isSeparator b then (networkDevice? rest).getD ⟨[], true, p⟩
      else ⟨[], true, b :: rest⟩
    else if isDriveLetter a ∧ b = ':' then
      match rest with
      | c :: tail => if isSeparator c then ⟨[a, b], true, tail⟩ else ⟨[a, b], false, rest⟩
      | [] => ⟨[a, b], false, []⟩
    else ⟨[], false, p⟩

/-- A device name space, such as the one that the mark of long paths names. -/
def IsNameSpace (device : List Char) : Prop :=
  device = ['\\', '\\', '.'] ∨ device = ['\\', '\\', '?']

instance (device : List Char) : Decidable (IsNameSpace device) :=
  inferInstanceAs (Decidable (_ ∨ _))

/-- The names that stand for a device in every directory, in small letters.  The number of a port may
    be a superscript. -/
def reservedNames : List (List Char) :=
  let numbers := "123456789".toList ++ [Char.ofNat 0xB9, Char.ofNat 0xB2, Char.ofNat 0xB3]
  ["con", "prn", "aux", "nul"].map String.toList ++
    ["com", "lpt"].flatMap fun port => numbers.map fun number => port.toList ++ [number]

/-- Whether a name stands for a device, in any letter case. -/
def isReserved (name : List Char) : Bool := reservedNames.contains (name.map Text.asciiLower)

/-- A text cut behind its first colon, where a reserved name stands in front of that. -/
def reservedDevice? (s : List Char) : Option (List Char × List Char) :=
  let name := s.takeWhile (· ≠ ':')
  match s.dropWhile (· ≠ ':') with
  | [] => none
  | colon :: tail => if isReserved name then some (name ++ [colon], tail) else none

/-- A path cut at its device, where a reserved name with a colon counts as one: at the front of a
    path, or in a device name space. -/
def cut (p : List Char) : Anchored :=
  let a := anchor p
  if IsNameSpace a.device then
    match reservedDevice? a.tail with
    | some (device, tail) => ⟨'\\' :: '\\' :: '?' :: '\\' :: device, true, tail⟩
    | none => a
  else if a.device = [] ∧ ¬ a.rooted then
    match reservedDevice? p with
    | some (device, tail) => ⟨device, false, tail⟩
    | none => a
  else a

/-- Whether a path is rooted: it starts with a separator, or with a drive and a separator. -/
def isAbsolute (p : List Char) : Bool :=
  match p with
  | a :: ':' :: c :: _ => isSeparator a || (isDriveLetter a && isSeparator c)
  | a :: _ => isSeparator a
  | [] => false

/-- The text of the names that a tail leads to. -/
def tailText (rooted : Bool) (tail : List Char) : List Char :=
  Text.join '\\' (collapse rooted (Text.split isSeparator tail))

/-- Whether a colon stands before a separator or at the end. -/
def hasOpenColon : List Char → Bool
  | [] => false
  | [c] => c == ':'
  | c :: d :: rest => (c == ':' && isSeparator d) || hasOpenColon (d :: rest)

/-- Whether a text starts like a drive. -/
def startsWithDrive : List Char → Bool
  | a :: b :: _ => isDriveLetter a && b == ':'
  | _ => false

/-- The text that would name a device if it were reserved: what stands before the first colon or,
    where there is none, before the last unit. -/
def beforeColon (p : List Char) : List Char :=
  if ':' ∈ p then p.takeWhile (· ≠ ':') else Text.takeUnits (Text.unitLength p - 1) p

/-- The shortest text of the same location, with a trailing separator kept.  A relative path that
    would read as a drive or a reserved name gets `.\` in front. -/
def normalize (p : List Char) : List Char :=
  match p with
  | [] => dot
  | [c] => if c = '/' then ['\\'] else p
  | _ =>
    let a := cut p
    let names := tailText a.rooted a.tail
    let body := if names = [] ∧ ¬ a.rooted then dot else names
    let ended : Bool := (p.getLast?.map isSeparator).getD false
    let body := if body ≠ [] ∧ ended then body ++ ['\\'] else body
    if ¬ a.rooted ∧ a.device = [] ∧ (startsWithDrive body ∨ hasOpenColon p) then
      '.' :: '\\' :: body
    else if isReserved (beforeColon p) then '.' :: '\\' :: a.device ++ body
    else if a.rooted then a.device ++ '\\' :: body
    else a.device ++ body

/-- Whether a path names a server: two separators and something else. -/
def startsWithServer : List Char → Bool
  | a :: b :: c :: _ => isSeparator a && isSeparator b && !isSeparator c
  | _ => false

/-- Parts joined by a separator; empty parts are passed over.  Only a first part that names a server
    keeps more than one leading separator. -/
def joined (parts : List (List Char)) : List Char :=
  match parts.filter (· ≠ []) with
  | [] => dot
  | first :: others =>
    let text := Text.join '\\' (first :: others)
    let leading := (text.takeWhile isSeparator).length
    if startsWithServer first ∨ leading < 2 then text else '\\' :: text.drop leading

/-- Whether a piece of a text has a reserved name in front of a colon.  Slashes do not separate the
    pieces. -/
def holdsReserved (p : List Char) : Bool :=
  (Text.split (· == '\\') p).any fun piece => (reservedDevice? piece).isSome

/-- A path with backslashes alone. -/
def toBackslashes (p : List Char) : List Char := p.map fun c => if c = '/' then '\\' else c

/-- Parts joined by a separator and normalized, unless there is a reserved name among them. -/
def join (parts : List (List Char)) : List Char :=
  if holdsReserved (joined parts) then toBackslashes (joined parts) else normalize (joined parts)

/-- The device of a resolved path with its tail and whether it is rooted. -/
def resolveAgainst (a base : Anchored) : Anchored :=
  if base.device ≠ [] ∧ a.device ≠ [] ∧ Text.lower base.device ≠ Text.lower a.device then a
  else
    let device := if a.device = [] then base.device else a.device
    if a.rooted then { a with device }
    else { device, rooted := base.rooted, tail := base.tail ++ '\\' :: a.tail }

/-- The directory that a path with this device is used in: the working directory, unless that is on
    another drive. -/
def workingDirectory (cwd device : List Char) : List Char :=
  if device ≠ [] ∧ Text.lower (cwd.take 2) ≠ Text.lower device ∧ cwd[2]? = some '\\' then
    device ++ ['\\']
  else cwd

/-- The full path of a location, when it is used in the directory `cwd`. -/
def resolve (cwd p : List Char) : List Char :=
  let a := anchor p
  let full :=
    if a.rooted ∧ a.device ≠ [] then a
    else resolveAgainst a (anchor (workingDirectory cwd a.device))
  let names := tailText full.rooted full.tail
  if full.rooted then full.device ++ '\\' :: names
  else if full.device ++ names = [] then dot
  else full.device ++ names

/-- How many characters two texts have in common at their front. -/
def commonChars : List Char → List Char → Nat
  | a :: as, b :: bs => if a = b then commonChars as bs + 1 else 0
  | _, _ => 0

/-- The place of the last separator in a text. -/
def lastSeparator? (s : List Char) : Option Nat :=
  let after := s.reverse.takeWhile (· ≠ '\\')
  if after.length = s.length then none else some (s.length - after.length - 1)

/-- A text without separators at its ends; of a text of separators alone one is left. -/
def trimSeparators (s : List Char) : List Char :=
  match s.dropWhile (· == '\\') with
  | [] => []
  | c :: rest => c :: (rest.reverse.dropWhile (· == '\\')).reverse

/-- The path that goes up once for every name of the source after the separator at `i`, and then
    follows the target from there on. -/
def leave (source target written : List Char) (i : Nat) : List Char :=
  let rest := (written.take target.length).drop i
  if source.length ≤ i then
    if rest.head? = some '\\' then rest.drop 1 else rest
  else
    Text.join '\\' ((Text.split (· == '\\') (source.drop (i + 1))).map fun _ => dotDot) ++ rest

/-- The path between two locations whose small-letter forms are given without separators at their
    ends; `written` is the target in its own letters, without leading separators, and `whole` what
    to give when there is nothing in common. -/
def between (source target written whole : List Char) : List Char :=
  let common := commonChars source target
  let shared := source.take common
  let isDrive := Text.unitLength shared == 2
  let lastShared := (lastSeparator? shared).getD 0
  match source.drop common, target.drop common with
  | _ :: _, _ :: _ =>
    match lastSeparator? shared with
    | none => whole
    | some i => leave source target written i
  | [], '\\' :: _ => written.drop (common + 1)
  | [], _ :: _ =>
    if isDrive then written.drop common else leave source target written lastShared
  | '\\' :: _, [] => leave source target written common
  | _ :: _, [] => leave source target written (if isDrive then 3 else lastShared)
  | [], [] => leave source target written lastShared

/-- The names of a full path, compared one by one because a letter changes its length when it is
    made small. -/
def betweenNames (source target : List Char) : List Char :=
  let cut (p : List Char) : List (List Char) :=
    let pieces := Text.split (· == '\\') p
    if pieces.getLast? = some [] then pieces.dropLast else pieces
  let sources := cut source
  let targets := cut target
  let common := commonLength (sources.map Text.lower) (targets.map Text.lower)
  if common = 0 then target
  else
    Text.join '\\' (List.replicate (sources.length - common) dotDot ++ targets.drop common)

/-- The path that leads from one location to another; empty when they are the same. -/
def relative (cwd source target : List Char) : List Char :=
  let source := resolve cwd source
  let target := resolve cwd target
  let smallSource := Text.lower source
  let smallTarget := Text.lower target
  if smallSource = smallTarget then []
  else if Text.unitLength source ≠ Text.unitLength smallSource ∨
      Text.unitLength target ≠ Text.unitLength smallTarget then
    betweenNames source target
  else
    between (trimSeparators smallSource) (trimSeparators smallTarget)
      (target.dropWhile (· == '\\')) target

end ImageBuild.Path.Windows
