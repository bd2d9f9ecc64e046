import ImageBuild.Archive.Tar
import ImageBuild.Text.Blank

namespace ImageBuild.Archive.Script

/-!
# Scripts — archivers that are written as shell scripts

A script is pipelines of simple commands, one after the other.  A loop over given words is the
pipelines of its body once for each word, after an assignment of the word.  The commands that are
known shape text; any other is not found.
-/

/-! ### Words -/

/-- A part of a word. -/
inductive Piece
  | text (s : List Char)
  | variable (name : List Char) (quoted : Bool)
  /-- All arguments of the script. -/
  | arguments
deriving Repr, DecidableEq

/-- A word of a command. -/
abbrev Word := List Piece

/-- A token of a script. -/
inductive Token
  | word (w : Word)
  /-- The end of a statement, and perhaps of its line. -/
  | separator (endsLine : Bool)
  | pipe
  /-- The output of the command goes to the error channel. -/
  | toError
deriving Repr, DecidableEq

/-- The quotation that the reader of a script is in. -/
inductive Quotation
  | outside
  | single
  | double
deriving DecidableEq

/-- What the reader of a script has just seen. -/
inductive Expectation
  | anything
  /-- A backslash: the next character stands for itself. -/
  | escaped
  /-- A dollar sign. -/
  | name
  /-- A name that may go on. -/
  | moreName
  /-- A greater-than sign, and then an ampersand. -/
  | channel
  | channelNumber
deriving DecidableEq

/-- The reader of a script. -/
structure Reader where
  quotation : Quotation := .outside
  expectation : Expectation := .anything
  /-- The parts of the word that is being read, the last one first. -/
  word : Option Word := none
  /-- The tokens so far, the last one first. -/
  tokens : List Token := []

namespace Reader

/-- The reader with one more character in its word. -/
def addChar (r : Reader) (c : Char) : Reader :=
  match r.word with
  | some (.text s :: pieces) => { r with word := some (.text (s ++ [c]) :: pieces) }
  | word => { r with word := some (.text [c] :: word.getD []) }

/-- The reader with one more part in its word. -/
def addPiece (r : Reader) (piece : Piece) : Reader :=
  { r with word := some (piece :: r.word.getD []) }

/-- The reader at the end of its word. -/
def endWord (r : Reader) : Reader :=
  match r.word with
  | some pieces => { r with word := none, tokens := .word pieces.reverse :: r.tokens }
  | none => r

/-- The reader without the word that names the output as a channel. -/
def leaveChannel (r : Reader) : Reader :=
  if r.word = some [.text ['1']] then { r with word := none } else r

/-- The reader with one more token after its word. -/
def add (r : Reader) (token : Token) : Reader :=
  let r := r.endWord
  { r with tokens := token :: r.tokens }

/-- The reader after a character that no other has prepared. -/
def plain (r : Reader) (c : Char) : Reader :=
  let single := Char.ofNat 0x27
  match r.quotation with
  | .single =>
    if c = single then { r.addPiece (.text []) with quotation := .outside } else r.addChar c
  | .double =>
    if c = '"' then { r.addPiece (.text []) with quotation := .outside }
    else if c = '$' then { r with expectation := .name }
    else if c = '\\' then { r.addChar c with expectation := .escaped }
    else r.addChar c
  | .outside =>
    if c = single then { r.addPiece (.text []) with quotation := .single }
    else if c = '"' then { r.addPiece (.text []) with quotation := .double }
    else if c = '$' then { r with expectation := .name }
    else if c = '\\' then { r with expectation := .escaped }
    else if c = '>' then { r.leaveChannel.endWord with expectation := .channel }
    else if c = ';' ∨ c = '\n' then r.add (.separator (c == '\n'))
    else if c = '|' then r.add .pipe
    else if c = ' ' ∨ c = '\t' then r.endWord
    else r.addChar c

/-- The reader after a character. -/
def step (r : Reader) (c : Char) : Reader :=
  let free : Reader := { r with expectation := .anything }
  match r.expectation with
  | .anything => r.plain c
  | .escaped => free.addChar c
  | .name =>
    if c = '@' then free.addPiece .arguments
    else if Text.isWordChar c then
      { r.addPiece (.variable [c] (r.quotation == .double)) with expectation := .moreName }
    else (free.addChar '$').plain c
  | .moreName =>
    match r.word with
    | some (.variable name quoted :: pieces) =>
      if Text.isWordChar c then { r with word := some (.variable (name ++ [c]) quoted :: pieces) }
      else free.plain c
    | _ => free.plain c
  | .channel => if c = '&' then { r with expectation := .channelNumber } else free
  | .channelNumber => if c = '2' then free.add .toError else free

end Reader

/-- The tokens of a script. -/
def tokensOf (script : List Char) : List Token :=
  (script.foldl Reader.step {}).endWord.tokens.reverse

/-! ### Statements -/

/-- A simple command. -/
structure Command where
  words : List Word := []
  toError : Bool := false
deriving Repr, DecidableEq

/-- The tokens between two separators, and the number of their line. -/
structure Line where
  number : Nat
  tokens : List Token
deriving Repr, DecidableEq

/-- A statement of a script. -/
inductive Statement
  | assign (name : List Char) (value : Word)
  | pipeline (line : Nat) (commands : List Command)
deriving Repr, DecidableEq

/-- The text of a word that is nothing but text. -/
def keyword? : Word → Option String
  | [.text s] => some (String.ofList s)
  | _ => none

/-- The commands of a pipeline with one more token. -/
def extend (commands : List Command) (token : Token) : List Command :=
  match commands.reverse, token with
  | last :: before, .word w => (({ last with words := last.words ++ [w] }) :: before).reverse
  | last :: before, .toError => ({ last with toError := true } :: before).reverse
  | [], .word w => [{ words := [w] }]
  | [], .toError => [{ toError := true }]
  | _, .pipe => commands ++ [{}]
  | _, .separator _ => commands

/-- The statement that the tokens between two separators make. -/
def Line.statement (line : Line) : Statement := .pipeline line.number (line.tokens.foldl extend [])

/-- The tokens between separators, after those in `line`. -/
def linesFrom (line : Line) : List Token → List Line
  | [] => [line]
  | .separator endsLine :: rest =>
    line :: linesFrom ⟨if endsLine then line.number + 1 else line.number, []⟩ rest
  | token :: rest => linesFrom { line with tokens := line.tokens ++ [token] } rest

/-- The tokens between separators, as far as there are any. -/
def lines (tokens : List Token) : List Line := (linesFrom ⟨1, []⟩ tokens).filter (·.tokens ≠ [])

/-- The words of tokens. -/
def wordsOf (tokens : List Token) : List Word :=
  tokens.filterMap fun token =>
    match token with
    | .word w => some w
    | _ => none

/-- The statements of lines.  `loop` holds the loop that is being read: its name, its words and the
    statements of its body. -/
def statements : (loop : Option (List Char × List Word × List Statement)) → List Line →
    List Statement
  | none, [] => []
  | some (_, _, body), [] => body
  | none, line :: rest =>
    match line.tokens with
    | .word w :: .word [.text name] :: .word _ :: values =>
      if keyword? w = some "for" then statements (some (name, wordsOf values, [])) rest
      else line.statement :: statements none rest
    | _ => line.statement :: statements none rest
  | some (name, values, body), line :: rest =>
    match line.tokens with
    | .word w :: more =>
      if keyword? w = some "done" then
        values.flatMap (fun value => .assign name value :: body) ++ statements none rest
      else
        let inner := if keyword? w = some "do" then { line with tokens := more } else line
        statements (some (name, values, body ++ [inner.statement])) rest
    | _ => statements (some (name, values, body ++ [line.statement])) rest

/-! ### Known commands -/

/-- What a command makes of its input. -/
structure Effect where
  output : List UInt8 := []
  complaint : List UInt8 := []
  code : Nat := 0

/-- The bytes of a text. -/
def bytes (s : String) : List UInt8 := Text.Utf8.encode s.toList

/-- The characters that escapes in a text stand for. -/
def unescape : List Char → List Char
  | '\\' :: '0' :: s => Char.ofNat 0 :: unescape s
  | '\\' :: 'n' :: s => '\n' :: unescape s
  | '\\' :: 't' :: s => '\t' :: unescape s
  | '\\' :: 'r' :: s => '\r' :: unescape s
  | '\\' :: '\\' :: s => '\\' :: unescape s
  | c :: s => c :: unescape s
  | [] => []

/-- A format with its places filled from the front of some words, and the words that are left. -/
def fill : List Char → List String → List Char × List String
  | '%' :: '%' :: s, words => let (text, left) := fill s words; ('%' :: text, left)
  | '%' :: c :: s, words =>
    if c = 's' ∨ c = 'd' then
      let (text, left) := fill s words.tail
      ((words.headD "").toList ++ text, left)
    else let (text, left) := fill (c :: s) words; ('%' :: text, left)
  | c :: s, words => let (text, left) := fill s words; (c :: text, left)
  | [], words => ([], words)

/-- A format filled again and again while words are left.  `turns` bounds how often; one more than
    the number of words is enough. -/
def fillAll (form : List Char) : (turns : Nat) → List String → List Char
  | 0, _ => []
  | turns + 1, words =>
    let (text, left) := fill form words
    if left.length < words.length ∧ left ≠ [] then text ++ fillAll form turns left else text

/-- One place of a pattern: what stands there, and whether it may repeat. -/
structure Place where
  accepts : Char → Bool
  repeats : Bool

/-- The places of a pattern.  `group` holds the characters of a class that is being read. -/
def places : (group : Option (List Char)) → List Char → List Place
  | _, [] => []
  | some read, c :: s =>
    if c = ']' then
      let (negated, cs) := match read with
        | '^' :: cs => (true, cs)
        | cs => (false, cs)
      let accepts (d : Char) : Bool := negated != ranges d cs
      match s with
      | '*' :: s => ⟨accepts, true⟩ :: places none s
      | s => ⟨accepts, false⟩ :: places none s
    else places (some (read ++ [c])) s
  | none, '[' :: s => places (some []) s
  | none, '.' :: '*' :: s => ⟨fun _ => true, true⟩ :: places none s
  | none, '.' :: s => ⟨fun _ => true, false⟩ :: places none s
  | none, c :: '*' :: s => ⟨(· == c), true⟩ :: places none s
  | none, c :: s => ⟨(· == c), false⟩ :: places none s
where
  /-- Whether a character is in a class. -/
  ranges (d : Char) : List Char → Bool
    | a :: '-' :: b :: cs => (a ≤ d && d ≤ b) || ranges d cs
    | a :: cs => a == d || ranges d cs
    | [] => false

/-- The longest match of places at the front of a text: what follows it. -/
def matchPlaces : List Place → List Char → Option (List Char)
  | [], s => some s
  | p :: ps, s =>
    if p.repeats then
      let run := s.takeWhile p.accepts
      (List.range (run.length + 1)).reverse.findSome? fun n => matchPlaces ps (s.drop n)
    else
      match s with
      | c :: rest => if p.accepts c then matchPlaces ps rest else none
      | [] => none

/-- A text with the matches of a pattern replaced.  The first `skip` characters belong to a match.
    -/
def substitute (ps : List Place) (image : List Char) : Nat → List Char → List Char
  | _, [] => []
  | skip + 1, _ :: s => substitute ps image skip s
  | 0, c :: s =>
    match matchPlaces ps (c :: s) with
    | some rest =>
      if rest.length < (c :: s).length then
        image ++ substitute ps image ((c :: s).length - rest.length - 1) s
      else c :: substitute ps image 0 s
    | none => c :: substitute ps image 0 s

/-- A text with a substitution of the form `s,pattern,text,g` made in it. -/
def edit (expression : String) (s : List Char) : List Char :=
  match expression.toList with
  | 's' :: mark :: rest =>
    match Text.split (· == mark) rest with
    | pattern :: image :: _ => substitute (places none pattern) image 0 s
    | _ => s
  | _ => s

/-- The number that an argument spells. -/
def numberOf (s : String) : Nat := s.toNat?.getD 0

/-- What a command that is not known ends with, in a line of a script. -/
def notFound (script : String) (line : Nat) (name : String) : Effect :=
  { complaint := bytes (script ++ ": " ++ toString line ++ ": " ++ name ++ ": not found\n")
    code := 127 }

/-- What a command in a line of a script makes of its input. -/
def perform (tree : FileTree) (script : String) (line : Nat) (words : List String)
    (input : List UInt8) : Effect :=
  match words with
  | ["echo"] => { output := [10] }
  | "echo" :: "-n" :: rest =>
    { output := Text.Utf8.encode (unescape (" ".intercalate rest).toList) }
  | "echo" :: rest =>
    { output := Text.Utf8.encode (unescape (" ".intercalate rest).toList) ++ [10] }
  | "printf" :: format :: rest =>
    { output := Text.Utf8.encode (fillAll (unescape format.toList) (rest.length + 1) rest) }
  | ["head", "-c", n, "/dev/zero"] => { output := List.replicate (numberOf n) 0 }
  | ["head", "-c", n] => { output := input.take (numberOf n) }
  | ["tail", "-c", n] => { output := input.drop (input.length - numberOf n) }
  | ["wc", "-c"] => { output := bytes (toString input.length ++ "\n") }
  | ["tr", "-d", set] =>
    let gone := Text.Utf8.encode (unescape set.toList)
    { output := input.filter fun b => !gone.contains b }
  | ["tr", set, images] =>
    let bytesOf (s : String) : List UInt8 := Text.Utf8.encode (unescape s.toList)
    let pairs := (bytesOf set).zip (bytesOf images)
    { output := input.map fun b => (pairs.lookup b).getD b }
  | ["sed", expression] =>
    { output := Text.Utf8.encode (edit expression (Text.Utf8.decode input)) }
  | ["cat"] => { output := input }
  | "cat" :: files =>
    files.foldl (fun e file =>
      match tree.read file.toList with
      | .ok content => { e with output := e.output ++ content }
      | .error refusal =>
        { e with
          complaint := e.complaint ++ bytes ("cat: " ++ file ++ ": " ++ refusal.text ++ "\n")
          code := 1 }) {}
  | "true" :: _ | ":" :: _ | "sleep" :: _ => {}
  | "false" :: _ => { code := 1 }
  | name :: _ => notFound script line name
  | [] => {}

/-! ### Running -/

/-- How far a script has run. -/
structure Run where
  /-- The variables that are set, with their values, the last one first. -/
  bound : List (List Char × List Char) := []
  output : List UInt8 := []
  complaint : List UInt8 := []
  code : Nat := 0
  /-- Whether the script has ended, of itself or because it was killed. -/
  ended : Bool := false
  killed : Bool := false

/-- The text of a variable; a number names an argument. -/
def valueOf (arguments : List String) (r : Run) (name : List Char) : List Char :=
  match (String.ofList name).toNat? with
  | some 0 => []
  | some (n + 1) => (arguments[n]?.getD "").toList
  | none => (r.bound.lookup name).getD []

/-- The words that a word stands for: all arguments are a word each, every other part belongs to
    one. -/
def expand (arguments : List String) (r : Run) (w : Word) : List String :=
  if w = [.arguments] ∨ w = [.text [], .arguments, .text []] then arguments
  else
    let pieces := w.map fun piece =>
      match piece with
      | .text s => s
      | .variable name _ => valueOf arguments r name
      | .arguments => (" ".intercalate arguments).toList
    [String.ofList pieces.flatten]

/-- The run after a pipeline with the given input, and what the pipeline puts out. -/
def pipeline (tree : FileTree) (script : String) (arguments : List String) (line : Nat) :
    List Command → List UInt8 → Run → Run
  | [], input, r => { r with output := r.output ++ input }
  | c :: cs, input, r =>
    let words := c.words.flatMap (expand arguments r)
    match words with
    | "exit" :: rest =>
      { r with ended := true, code := (rest.head?.map numberOf).getD r.code % 256 }
    | "kill" :: _ => { r with ended := true, killed := true }
    | _ =>
      let effect := perform tree script line words input
      let r := { r with complaint := r.complaint ++ effect.complaint, code := effect.code }
      if c.toError then
        pipeline tree script arguments line cs []
          { r with complaint := r.complaint ++ effect.output }
      else pipeline tree script arguments line cs effect.output r

/-- The run after a statement. -/
def execute (tree : FileTree) (script : String) (arguments : List String) (r : Run) :
    Statement → Run
  | .assign name value =>
    if r.ended then r
    else
      let value := (" ".intercalate (expand arguments r value)).toList
      { r with bound := (name, value) :: r.bound }
  | .pipeline line commands =>
    if r.ended then r else pipeline tree script arguments line commands [] r

/-- The interpreters of scripts. -/
def interpreters : List String :=
  ["/bin/sh", "/bin/bash", "/bin/dash", "/usr/bin/sh", "/usr/bin/bash", "/usr/bin/env"]

/-- Whether the first line of a script names an interpreter. -/
def hasInterpreter (script : List UInt8) : Bool :=
  match Text.Utf8.decode script with
  | '#' :: '!' :: rest =>
    let line := (rest.takeWhile (· ≠ '\n')).dropWhile Text.isBlank
    interpreters.contains (String.ofList (line.takeWhile (!Text.isBlank ·)))
  | _ => false

/-- A script with its comments left empty. -/
def withoutComments (script : List Char) : List Char :=
  Text.join '\n' ((Text.split (· == '\n') script).map fun line =>
    if line.head? = some '#' then [] else line)

/-- How a script ends that is run with some arguments. -/
def run (tree : FileTree) (path : String) (script : List UInt8) (arguments : List String) :
    Outcome :=
  let text := withoutComments (Text.Utf8.decode script)
  let r := (statements none (lines (tokensOf text))).foldl (execute tree path arguments) {}
  { content := .bytes r.output
    complaint := r.complaint
    exitCode := if r.killed then none else some r.code }

end ImageBuild.Archive.Script
