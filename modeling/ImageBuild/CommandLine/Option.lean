namespace ImageBuild.CommandLine

/-!
# Options and commands — what a command line may hold

An option has a long name, often a short one, and may take a value.  A command has options,
arguments of its own, and a description of each.
-/

/-- An option. -/
structure OptionSpec where
  /-- The letter of the short name. -/
  short : Option Char := none
  long : String
  /-- The name of the value, if the option takes one. -/
  value : Option String := none
  description : String
deriving DecidableEq, Repr

namespace OptionSpec

/-- The long name as it is written. -/
def longForm (o : OptionSpec) : String := "--" ++ o.long

/-- The short name as it is written. -/
def shortForm? (o : OptionSpec) : Option String := o.short.map fun c => "-" ++ c.toString

/-- Whether an argument is the option. -/
def isNamed (o : OptionSpec) (argument : String) : Bool :=
  o.longForm == argument || o.shortForm? == some argument

/-- The option as descriptions show it. -/
def usage (o : OptionSpec) : String :=
  (o.shortForm?.map (· ++ ", ")).getD "" ++ o.longForm ++
    (o.value.map fun v => " <" ++ v ++ ">").getD ""

end OptionSpec

/-- An argument of a command. -/
structure ArgumentSpec where
  name : String
  required : Bool
  description : String
deriving DecidableEq, Repr

/-- The argument as descriptions show it. -/
def ArgumentSpec.usage (a : ArgumentSpec) : String :=
  if a.required then "<" ++ a.name ++ ">" else "[" ++ a.name ++ "]"

/-- A command. -/
structure CommandSpec where
  name : String
  description : String
  arguments : List ArgumentSpec := []
  options : List OptionSpec := []
deriving DecidableEq, Repr

/-- The option that asks for help, which every command has. -/
def helpOption : OptionSpec :=
  { short := some 'h', long := "help", description := "display help for command" }

/-- The option that asks for the version, which the program has. -/
def versionOption : OptionSpec :=
  { short := some 'V', long := "version", description := "output the version number" }

end ImageBuild.CommandLine
