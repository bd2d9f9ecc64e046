import ImageBuild.CommandLine.Option

namespace ImageBuild.CommandLine

/-!
# Help — how a program and its commands are called

A help text shows the usage, the description, and a section each for arguments, options and
commands. All terms of a text are padded to one width.
-/

/-- A term of a section and what it means. -/
abbrev Item := String × String

/-- A text padded with blanks to a width. -/
def padTo (width : Nat) (s : String) : String :=
  s ++ String.ofList (List.replicate (width - s.length) ' ')

/-- A section of a help text, without its terms when there are none. -/
def sectionText (width : Nat) (title : String) (items : List Item) : String :=
  if items.isEmpty then ""
  else
    "\n" ++ title ++ ":\n" ++
      String.join (items.map fun (term, meaning) =>
        "  " ++ padTo width term ++ "  " ++ meaning ++ "\n")

/-- A help text. -/
def helpText (usage description : String) (sections : List (String × List Item)) : String :=
  let width := (sections.flatMap (·.2)).foldl (fun w item => max w item.1.length) 0
  "Usage: " ++ usage ++ "\n\n" ++ description ++ "\n" ++
    String.join (sections.map fun (title, items) => sectionText width title items)

/-- The options of a command as items, with the one that asks for help. -/
def optionItems (options : List OptionSpec) : List Item :=
  (options ++ [helpOption]).map fun o => (o.usage, o.description)

/-- A command as an item. -/
def CommandSpec.item (c : CommandSpec) : Item :=
  (" ".intercalate
    ([c.name] ++ (if c.options.isEmpty then [] else ["[options]"]) ++ c.arguments.map (·.usage)),
   c.description)

/-- The help text of a command of a program. -/
def CommandSpec.help (c : CommandSpec) (program : String) : String :=
  helpText (" ".intercalate ([program, c.name, "[options]"] ++ c.arguments.map (·.usage)))
    c.description
    [("Arguments", c.arguments.map fun a => (a.name, a.description)),
     ("Options", optionItems c.options)]

/-- The command that shows the help of others. -/
def helpCommand : CommandSpec :=
  { name := "help"
    description := "display help for command"
    arguments := [⟨"command", false, ""⟩] }

/-- A program with commands. -/
structure ProgramSpec where
  name : String
  description : String
  commands : List CommandSpec

/-- The help text of a program. -/
def ProgramSpec.help (p : ProgramSpec) : String :=
  helpText (p.name ++ " [options] [command]") p.description
    [("Options", optionItems [versionOption]),
     ("Commands", (p.commands ++ [helpCommand]).map (·.item))]

end ImageBuild.CommandLine
