import WordMachine.Cli.Command

/-!
# Usage lines

Two usage lines exist for a command. `Command.helpUsage` is the one of the help page: the
command's full name, `[OPTIONS]` when it has a switch or option other than help and version,
every positional parameter, and `<COMMAND>` when a subcommand is required. `Command.usageFor`
is the one of a refusal: it names only what matters to the mistake (the required parameters and
those given on the command line), and falls back to the help page's line when that is nothing.
A group given on the command line is shown as the choice between its members,
`<--color|--no-color|--json>`, in place of the members themselves.
-/

namespace WordMachine.Cli

/-- Keeps the first occurrence of each element. -/
def dedup : List String → List String
  | [] => []
  | x :: xs => x :: (dedup xs).filter (· != x)

namespace Command

/-- Whether the help page's usage line shows `[OPTIONS]`. -/
def showsOptions (c : Command) : Bool :=
  c.flagsAndOptions.any fun p => p.action != .help && p.action != .version && !p.required

/-- What a command's usage line ends with when it has subcommands. -/
def commandPlaceholder (c : Command) : String :=
  if c.subcommands.isEmpty then "" else if c.subcommandRequired then " <COMMAND>" else " [COMMAND]"

/-- The choice between the members of a group, as usage lines show it. -/
def groupText (c : Command) (g : String) : String :=
  "<" ++ "|".intercalate ((c.groupMembers g).map Param.render) ++ ">"

/-- The usage line of the help page. -/
def helpUsage (c : Command) : String :=
  let options := if c.showsOptions then " [OPTIONS]" else ""
  let required := (c.flagsAndOptions.filter Param.required).map fun p => " " ++ p.renderAs true
  let positionals := c.positionals.map fun p => " " ++ p.render
  c.binName ++ options ++ String.join required ++ String.join positionals ++ c.commandPlaceholder

/-- The usage line that names the required parameters and the given identifiers `used`
(parameters or groups), required ones first. -/
def usageNaming (c : Command) (used : List String) : String :=
  let ids := (c.params.filter Param.required).map Param.id ++ used
  let groups := dedup (ids.filter c.isGroup)
  let inGroup (p : Param) : Bool := match p.group with
    | some g => groups.contains g
    | none => false
  let named := ids.filterMap fun i => (c.find i).filter fun p => !inGroup p
  let options := dedup ((named.filter fun p => !p.isPositional).map fun p => p.renderAs true)
  let positionals := c.positionals.filter fun p => named.any fun q => q.id == p.id
  let items := options ++ groups.map c.groupText ++ positionals.map fun p => p.renderAs true
  let placeholder := if c.subcommandRequired then " <COMMAND>" else ""
  c.binName ++ String.join (items.map (" " ++ ·)) ++ placeholder

/-- The usage line of a refusal: the one naming `used`, or the help page's when `used` is
empty. -/
def usageFor (c : Command) (used : List String) : String :=
  if used.isEmpty then c.helpUsage else c.usageNaming used

end Command

end WordMachine.Cli
