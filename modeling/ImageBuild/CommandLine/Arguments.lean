import ImageBuild.CommandLine.Option

namespace ImageBuild.CommandLine

/-!
# Arguments — the words of a command line, sorted

`sort` takes out the options of one command, with their values, and leaves two lists: the operands,
and what follows the first option that is not known, that option included.  Short options may be
joined, the last of them with its value; a long option may have its value behind an equals sign; two
hyphens alone end the options.
-/

/-- An option that was given, and its value if it takes one. -/
structure Given where
  option : OptionSpec
  value : Option String
deriving DecidableEq, Repr

/-- The words of a command line, sorted. -/
structure Sorted where
  given : List Given := []
  operands : List String := []
  /-- The first unknown option and all words after it that are no options. -/
  unknown : List String := []
deriving DecidableEq, Repr

/-- Whether a word has the form of an option. -/
def isOptionLike (word : List Char) : Bool :=
  match word with
  | '-' :: _ :: _ => true
  | _ => false

/-- What is to be done with a word in front of others. -/
inductive Step
  /-- All other words are operands. -/
  | endOfOptions
  /-- An option whose value is the next word. -/
  | needsValue (option : OptionSpec)
  | option (given : Given)
  /-- An option that more letters are joined to. -/
  | joined (option : OptionSpec) (rest : List Char)
  | other

/-- The option with the given name. -/
def find? (options : List OptionSpec) (name : List Char) : Option OptionSpec :=
  options.find? (·.isNamed (String.ofList name))

/-- What is to be done with a word that joins a short option with more. -/
def joinedStep? (options : List OptionSpec) (word : List Char) : Option Step :=
  match word with
  | '-' :: letter :: c :: rest =>
    if letter = '-' then none
    else
      (find? options ['-', letter]).map fun o =>
        if o.value.isSome then .option ⟨o, some (String.ofList (c :: rest))⟩
        else .joined o (c :: rest)
  | _ => none

/-- What is to be done with a word that gives a long option its value. -/
def assignedStep? (options : List OptionSpec) (word : List Char) : Option Step :=
  match word with
  | '-' :: '-' :: rest =>
    match rest.span (· ≠ '=') with
    | (c :: name, _ :: value) =>
      match find? options ('-' :: '-' :: c :: name) with
      | some o => if o.value.isSome then some (.option ⟨o, some (String.ofList value)⟩) else none
      | none => none
    | _ => none
  | _ => none

/-- What is to be done with a word. -/
def stepOf (options : List OptionSpec) (word : List Char) : Step :=
  if word = ['-', '-'] then .endOfOptions
  else
    match (if isOptionLike word then find? options word else none) with
    | some o => if o.value.isSome then .needsValue o else .option ⟨o, none⟩
    | none => ((joinedStep? options word).or (assignedStep? options word)).getD .other

/-- Words with one more that is no option of the command.  Once an unknown option has been seen all
    such words are unknown. -/
def Sorted.add (s : Sorted) (word : List Char) : Sorted :=
  let text := String.ofList word
  if s.unknown ≠ [] ∨ isOptionLike word then { s with unknown := s.unknown ++ [text] }
  else { s with operands := s.operands ++ [text] }

/-- Words with one more option. -/
def Sorted.give (s : Sorted) (given : Given) : Sorted := { s with given := s.given ++ [given] }

/-- Words with all others after the end of the options. -/
def Sorted.close (s : Sorted) (words : List (List Char)) : Sorted :=
  let texts := words.map String.ofList
  if s.unknown ≠ [] then { s with unknown := s.unknown ++ "--" :: texts }
  else { s with operands := s.operands ++ texts }

/-- How much is left to read. -/
def size (words : List (List Char)) : Nat := words.foldr (fun w n => w.length + 1 + n) 0

/-- The words sorted, after those in `s`; the option that lacks its value otherwise.  `fuel` bounds
    the steps; one more than `size` is enough. -/
def sortFrom (options : List OptionSpec) : (fuel : Nat) → Sorted → List (List Char) →
    Except OptionSpec Sorted
  | 0, s, _ => .ok s
  | _, s, [] => .ok s
  | fuel + 1, s, word :: words =>
    match stepOf options word with
    | .endOfOptions => .ok (s.close words)
    | .needsValue o =>
      match words with
      | value :: words => sortFrom options fuel (s.give ⟨o, some (String.ofList value)⟩) words
      | [] => .error o
    | .option given => sortFrom options fuel (s.give given) words
    | .joined o rest => sortFrom options fuel (s.give ⟨o, none⟩) (('-' :: rest) :: words)
    | .other => sortFrom options fuel (s.add word) words

/-- The words sorted; the option that lacks its value otherwise. -/
def sort (options : List OptionSpec) (words : List String) : Except OptionSpec Sorted :=
  let words := words.map String.toList
  sortFrom options (size words + 1) {} words

end ImageBuild.CommandLine
