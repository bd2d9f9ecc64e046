import ImageBuild.Path.Segments

namespace ImageBuild.Path.Posix

/-!
# Posix paths — lexical normalization, joining and relative paths

Nothing is read from disk: every operation works on the text alone.  `normalize` keeps one trailing
slash; `relative` leads from one location to another with as many `..` as names are left behind.
-/

/-- Whether a character separates names. -/
def isSeparator (c : Char) : Bool := c == '/'

/-- Whether a path starts at the root. -/
def isAbsolute (p : List Char) : Bool := p.head? == some '/'

/-- Whether a path ends in a separator. -/
def endsInSlash (p : List Char) : Bool := p.getLast? == some '/'

/-- The names that a path leads to: from the root when it is absolute, else from where it is
    used. -/
def names (p : List Char) : List (List Char) := collapse (isAbsolute p) (Text.split isSeparator p)

/-- The shortest text of the same location, with a trailing slash kept. -/
def normalize (p : List Char) : List Char :=
  if p = [] then dot
  else
    match names p, isAbsolute p, endsInSlash p with
    | [], true, _ => ['/']
    | [], false, true => ['.', '/']
    | [], false, false => dot
    | ns, rooted, slash =>
      (if rooted then ['/'] else []) ++ Text.join '/' ns ++ (if slash then ['/'] else [])

/-- Parts joined by a slash and normalized; empty parts are passed over. -/
def join (parts : List (List Char)) : List Char :=
  normalize (Text.join '/' (parts.filter (· ≠ [])))

/-- The names from the root that a path leads to, when it is used in the directory `cwd`. -/
def resolve (cwd p : List Char) : List (List Char) :=
  if isAbsolute p then names p
  else collapse true (Text.split isSeparator cwd ++ Text.split isSeparator p)

/-- The path that leads from one list of names to another. -/
def between (source target : List (List Char)) : List (List Char) :=
  let common := commonLength source target
  List.replicate (source.length - common) dotDot ++ target.drop common

/-- The path that leads from one location to another; empty when they are the same. -/
def relative (cwd source target : List Char) : List Char :=
  Text.join '/' (between (resolve cwd source) (resolve cwd target))

/-- The last name of a path. -/
def baseName (p : List Char) : List Char :=
  ((Text.split isSeparator p).filter (· ≠ [])).getLast?.getD []

end ImageBuild.Path.Posix
