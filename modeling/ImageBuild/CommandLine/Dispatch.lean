import ImageBuild.CommandLine.Arguments
import ImageBuild.CommandLine.Help
import ImageBuild.CommandLine.Suggestion

namespace ImageBuild.CommandLine

/-!
# Dispatch — what a command line asks for

The program's own options are looked for first, in the whole line; what is left belongs to the
command.  Help goes before complaints, and complaints about options before those about arguments.
-/

/-- What a command line asks for. -/
inductive Request
  | showVersion
  /-- Help that was asked for. -/
  | showHelp (text : String)
  /-- Help for want of a command. -/
  | explain (text : String)
  | complain (message : String)
  | run (command : CommandSpec) (given : List Given) (operands : List String)
deriving DecidableEq, Repr

/-- The complaint about an option that lacks its value. -/
def missingValue (o : OptionSpec) : String := "error: option '" ++ o.usage ++ "' argument missing"

/-- The complaint about an option that is not known.  Long ones are compared with `candidates`. -/
def unknownOption (candidates : List OptionSpec) (name : String) : String :=
  "error: unknown option '" ++ name ++ "'" ++
    if "--".toList.isPrefixOf name.toList then suggestion name (candidates.map (·.longForm)) else ""

/-- The complaint about a command that is not known. -/
def unknownCommand (commands : List CommandSpec) (name : String) : String :=
  "error: unknown command '" ++ name ++ "'" ++ suggestion name (commands.map (·.name))

/-- The complaint about an argument that is not given. -/
def missingArgument (a : ArgumentSpec) : String :=
  "error: missing required argument '" ++ a.name ++ "'"

/-- The first required argument that operands do not reach. -/
def missingArgument? (c : CommandSpec) (operands : List String) : Option ArgumentSpec :=
  (c.arguments.drop operands.length).find? (·.required)

/-- Whether help is asked for among words. -/
def asksForHelp (words : List String) : Bool := words.any helpOption.isNamed

/-- The options of the program itself. -/
def programOptions : List OptionSpec := [versionOption, helpOption]

/-- What a line asks for whose command is known. -/
def dispatchCommand (p : ProgramSpec) (c : CommandSpec) (operands unknown : List String) :
    Request :=
  match sort c.options unknown with
  | .error o => .complain (missingValue o)
  | .ok s =>
    let operands := operands ++ s.operands
    if asksForHelp s.unknown then .showHelp (c.help p.name)
    else
      match s.unknown.head? with
      | some name =>
        .complain (unknownOption (c.options ++ [helpOption] ++ programOptions) name)
      | none =>
        match missingArgument? c operands with
        | some a => .complain (missingArgument a)
        | none => .run c s.given operands

/-- What a line asks for whose command is `help`. -/
def dispatchHelp (p : ProgramSpec) (name : Option String) : Request :=
  match name with
  | none | some "" => .showHelp p.help
  | some name =>
    match p.commands.find? (·.name == name) with
    | some c => .showHelp (c.help p.name)
    | none => .explain p.help

/-- What a line asks for. -/
def dispatch (p : ProgramSpec) (words : List String) : Request :=
  match sort [versionOption] words with
  | .error o => .complain (missingValue o)
  | .ok s =>
    if !s.given.isEmpty then .showVersion
    else
      match s.operands with
      | [] =>
        if s.unknown.isEmpty then .explain p.help
        else if asksForHelp s.unknown then .showHelp p.help
        else .complain (unknownOption programOptions (s.unknown.headD ""))
      | name :: operands =>
        match p.commands.find? (·.name == name) with
        | some c => dispatchCommand p c operands s.unknown
        | none =>
          if name = helpCommand.name then dispatchHelp p operands.head?
          else if asksForHelp s.unknown then .showHelp p.help
          else .complain (unknownCommand (p.commands ++ [helpCommand]) name)

end ImageBuild.CommandLine
