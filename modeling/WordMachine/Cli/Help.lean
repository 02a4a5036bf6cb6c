import WordMachine.Cli.Usage
import WordMachine.Text.Blank

/-!
# Help pages

`Command.helpPage` is the page printed by `--help`, by `help <command>`, and (as an error) when
a command that needs something is given nothing: the command's one-line description, its usage
line, then up to three sections, `Commands:`, `Arguments:` and `Options:`. In each section the
descriptions start in one column, two spaces after the longest entry; options are listed by
rank, then by short name (lower case before upper case) or long name.
-/

namespace WordMachine.Cli

namespace Param

/-- The text after an entry's description: its default and its possible values. -/
def notes (p : Param) : String :=
  let defaults := match p.default with
    | some d => if p.takesValue then ["[default: " ++ d ++ "]"] else []
    | none => []
  let choices := match p.kind with
    | .choice names => ["[possible values: " ++ ", ".intercalate names ++ "]"]
    | _ => []
  " ".intercalate (defaults ++ choices)

/-- The width an entry takes in the left column of its section. -/
def entryWidth (p : Param) : Nat :=
  if p.isPositional then p.render.length else p.render.length + 4

/-- The sort key of an option in the help page. -/
def listingKey (p : Param) : Nat × String :=
  let name := match p.short, p.long with
    | some s, _ => s.toLower.toString ++ (if s.isLower then "0" else "1")
    | none, some l => l
    | none, none => "\x7b" ++ p.id
  (p.order.getD 999, name)

/-- One line of a help section. -/
def helpLine (p : Param) (longest : Nat) : String :=
  let name :=
    if p.isPositional then p.render
    else
      let short := match p.short with
        | some s => "-" ++ s.toString
        | none => if p.long.isSome then "    " else ""
      let long := match p.long with
        | some l => (if p.short.isSome then ", " else "") ++ "--" ++ l
        | none => ""
      short ++ long ++ p.suffix p.required
  let padding :=
    if p.isPositional then longest + 2 - p.entryWidth
    else if p.long.isSome then longest + 2 - p.entryWidth
    else longest + 6 - p.entryWidth
  let notes := p.notes
  let text := if notes.isEmpty then p.help
    else if p.help.isEmpty then notes else p.help ++ " " ++ notes
  "  " ++ name ++ "".pushn ' ' padding ++ text

end Param

/-- Orders by a key of a rank and a text, keeping the order of equal keys. -/
def sortByKey {α : Type} (key : α → Nat × String) (xs : List α) : List α :=
  xs.mergeSort fun a b => (key a).1 < (key b).1 || ((key a).1 == (key b).1 && (key a).2 <= (key b).2)

namespace Command

/-- The lines of a section of parameters. -/
def sectionLines (ps : List Param) (key : Param → Nat × String) : List String :=
  let longest := ps.foldl (fun n p => max n p.entryWidth) 2
  (sortByKey key ps).map fun p => p.helpLine longest

/-- The lines of the `Commands:` section. -/
def commandLines (c : Command) : List String :=
  let longest := c.subcommands.foldl (fun n s => max n s.name.length) 2
  (sortByKey (fun s => (s.order.getD 999, s.name)) c.subcommands).map fun s =>
    "  " ++ s.name ++ "".pushn ' ' (longest + 2 - s.name.length) ++ s.about

/-- The help page, ending with one newline. -/
def helpPage (c : Command) : String :=
  let commands := if c.subcommands.isEmpty then [] else ["Commands:\n" ++ "\n".intercalate c.commandLines]
  let positionals := c.positionals
  let arguments := if positionals.isEmpty then []
    else ["Arguments:\n" ++ "\n".intercalate (sectionLines positionals fun _ => (0, ""))]
  let options := c.flagsAndOptions
  let optionSection := if options.isEmpty then []
    else ["Options:\n" ++ "\n".intercalate (sectionLines options Param.listingKey)]
  let body := "\n\n".intercalate (commands ++ arguments ++ optionSection)
  let page := c.about ++ "\n\nUsage: " ++ c.helpUsage ++ "\n\n" ++ body
  String.ofList (Text.trimEnd page.toList) ++ "\n"

/-- The text printed by `--version`. -/
def versionText (c : Command) : String := c.name ++ " " ++ (c.version.getD "") ++ "\n"

end Command

end WordMachine.Cli
