import ImageBuild.DomainName.Ascii
import ImageBuild.Text.Utf8

namespace ImageBuild.Daemon

/-!
# Hosts — the host in an `http://` address

`hostOf?` finds the host as web addresses have it: what stands before the port, the path, the query
and the fragment and after the user, a backslash counting as a slash.  Names are percent-decoded and
written as domain names in ASCII; a name whose last part is a number is an IPv4 address, in any of
its shorthands; an address in brackets is an IPv6 address.  A host that is none of these is refused.
-/

/-- A host. -/
inductive Host
  | name (value : List Char)
  | ipv4 (value : Nat)
  | ipv6 (value : List Char)
deriving DecidableEq, Repr

/-- Whether a host is this machine, by its usual name or number. -/
def Host.isLocal : Host → Bool
  | .name value => value == "localhost".toList
  | .ipv4 value => value == 0x7F000001
  | .ipv6 _ => false

/-! ### IPv4 -/

/-- The value of digits in a base up to sixteen. -/
def valueInBase? (base : Nat) (s : List Char) : Option Nat :=
  s.foldlM (fun n c => do
    let d ← Text.hexValue? c
    if d < base then some (base * n + d) else none) 0

/-- A part of an IPv4 address: hexadecimal after `0x`, octal after a zero, else decimal. -/
def ipv4Part? : List Char → Option Nat
  | [] => none
  | ['0'] => some 0
  | '0' :: 'x' :: s | '0' :: 'X' :: s => valueInBase? 16 s
  | '0' :: s => valueInBase? 8 s
  | s => valueInBase? 10 s

/-- The parts between points; a point at the end does not count. -/
def dotParts (s : List Char) : List (List Char) :=
  let parts := Text.split (· == '.') s
  if 1 < parts.length ∧ parts.getLast? = some [] then parts.dropLast else parts

/-- Whether the last part of a name is a number, so that the name has to be an IPv4 address. -/
def endsInNumber (s : List Char) : Bool :=
  match (dotParts s).getLast? with
  | none | some [] => false
  | some last => last.all Char.isDigit || (ipv4Part? last).isSome

/-- An IPv4 address: the last part stands for all bytes that the parts before it leave. -/
def ipv4? (s : List Char) : Option Nat := do
  let parts := dotParts s
  if 4 < parts.length then none
  let values ← parts.mapM ipv4Part?
  let last ← values.getLast?
  let others := values.dropLast
  let room := 1 <<< (8 * (4 - others.length))
  if others.any (255 < ·) || room ≤ last then none
  return others.foldl (fun n byte => 256 * n + byte) 0 * room + last

/-! ### IPv6 -/

/-- Whether a text is a group of an IPv6 address. -/
def isGroup (s : List Char) : Bool :=
  s ≠ [] && s.length ≤ 4 && s.all fun c => (Text.hexValue? c).isSome

/-- Whether a text is a byte in decimal without leading zeros. -/
def isByte (s : List Char) : Bool :=
  s ≠ [] && s.all Char.isDigit && (s == ['0'] || s.head? != some '0') &&
    (valueInBase? 10 s).any (· ≤ 255)

/-- How many groups a sequence of groups takes, when it is one.  `last` says that it ends the
    address, so that four bytes may stand for its last two groups. -/
def groupCount? (last : Bool) (s : List Char) : Option Nat :=
  if s = [] then some 0
  else
    let groups := Text.split (· == ':') s
    if groups.all isGroup then some groups.length
    else
      let bytes := Text.split (· == '.') (groups.getLast?.getD [])
      if last && groups.dropLast.all isGroup && bytes.length = 4 && bytes.all isByte then
        some (groups.length + 1)
      else none

/-- The text before the first double colon and the text after it. -/
def splitAtGap : List Char → Option (List Char × List Char)
  | [] => none
  | [_] => none
  | a :: b :: s =>
    if a = ':' ∧ b = ':' then some ([], s)
    else (splitAtGap (b :: s)).map fun (before, after) => (a :: before, after)

/-- Whether a text is an IPv6 address. -/
def isIpv6 (s : List Char) : Bool :=
  match splitAtGap s with
  | none => groupCount? true s == some 8
  | some (before, after) =>
    match groupCount? false before, groupCount? true after with
    | some m, some n => m + n ≤ 7
    | _, _ => false

/-! ### Names -/

/-- The bytes of a name, with percent signs followed by two hexadecimal digits decoded. -/
def percentDecode : List UInt8 → List UInt8
  | [] => []
  | 0x25 :: a :: b :: rest =>
    match Text.hexValue? (Char.ofNat a.toNat), Text.hexValue? (Char.ofNat b.toNat) with
    | some m, some n => (16 * m + n).toUInt8 :: percentDecode rest
    | _, _ => 0x25 :: percentDecode (a :: b :: rest)
  | b :: rest => b :: percentDecode rest

/-- Whether a character cannot stand in a name: controls, the space, and the marks that part an
    address. -/
def isForbidden (c : Char) : Bool :=
  c.toNat ≤ 0x20 || c.toNat == 0x7F || "#/:<>?@[\\]^|%".toList.contains c

/-- The name or IPv4 address that a text outside brackets stands for. -/
def nameOf? (s : List Char) : Option Host := do
  let name ← DomainName.inAscii? (Text.Utf8.decode (percentDecode (Text.Utf8.encode s)))
  if name.any isForbidden then none
  else if endsInNumber name then (ipv4? name).map .ipv4
  else some (.name name)

/-! ### Addresses -/

/-- What ends the part of an address that names user, host and port. -/
def endsAuthority (c : Char) : Bool := c == '/' || c == '\\' || c == '?' || c == '#'

/-- What follows the last `@` of a text; all of it when there is none. -/
def afterUser (s : List Char) : List Char := (s.reverse.takeWhile (· ≠ '@')).reverse

/-- Whether a text is a port, which may be left empty. -/
def isPortNumber (s : List Char) : Bool :=
  s.all Char.isDigit && (valueInBase? 10 s).any (· ≤ 65535)

/-- The host in a text of host and port. -/
def hostAndPort? (s : List Char) : Option Host :=
  match s with
  | '[' :: rest =>
    let address := rest.takeWhile (· ≠ ']')
    let isPlaced := match rest.dropWhile (· ≠ ']') with
      | [']'] => true
      | ']' :: ':' :: port => isPortNumber port
      | _ => false
    if isPlaced && isIpv6 address then some (.ipv6 address) else none
  | _ =>
    let name := s.takeWhile (· ≠ ':')
    match s.dropWhile (· ≠ ':') with
    | [] => nameOf? name
    | _ :: port => if isPortNumber port then nameOf? name else none

/-- Whether a character at the end of an address does not belong to it. -/
def isEdge (c : Char) : Bool := c.toNat ≤ 0x20

/-- The host in an address, given what follows `http://`. -/
def hostOf? (s : List Char) : Option Host :=
  let trimmed := (s.reverse.dropWhile isEdge).reverse
  let clean := trimmed.filter fun c => c != '\t' && c != '\n' && c != '\r'
  let start := clean.dropWhile fun c => c == '/' || c == '\\'
  hostAndPort? (afterUser (start.takeWhile fun c => !endsAuthority c))

end ImageBuild.Daemon
