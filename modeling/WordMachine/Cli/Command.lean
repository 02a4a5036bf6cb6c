import WordMachine.Cli.Param

/-!
# Commands

A command has parameters and may have subcommands, which form a tree. `Command.prepare` turns a
declared tree into the one that is parsed: every command gains a help flag, the root a version
flag, a command with subcommands a `help` subcommand, and the global parameters of a command are
added to each of its subcommands (never to `help`). The tree for completion scripts
(`Command.prepareForCompletion`) differs only in its `help` subcommand, which repeats the tree's
commands without parameters so that `help <command>` completes.
-/

namespace WordMachine.Cli

/-- A command and its subcommands. -/
structure Command where
  /-- The name that selects it. -/
  name : String
  /-- The full name used in usage lines, e.g. `tool run`. -/
  binName : String := name
  /-- One line that says what it does. -/
  about : String
  /-- The version, printed by `--version`. -/
  version : Option String := none
  params : List Param := []
  subcommands : List Command := []
  /-- A subcommand must be given. -/
  subcommandRequired : Bool := false
  /-- With nothing given at all, print the help page as an error. -/
  helpWhenEmpty : Bool := false
  /-- Has a help flag. -/
  hasHelpFlag : Bool := true
  /-- Its rank in help listings; unranked commands come last. -/
  order : Option Nat := none
  deriving Repr

namespace Command

/-- The parameters that are not positional, in declaration order. -/
def flagsAndOptions (c : Command) : List Param := c.params.filter fun p => !p.isPositional

/-- The positional parameters, in order. -/
def positionals (c : Command) : List Param := c.params.filter Param.isPositional

/-- The parameter with a long name. -/
def findLong (c : Command) (l : String) : Option Param := c.params.find? fun p => p.long == some l

/-- The parameter with a short name. -/
def findShort (c : Command) (s : Char) : Option Param := c.params.find? fun p => p.short == some s

/-- The parameter with an identifier. -/
def find (c : Command) (id : String) : Option Param := c.params.find? fun p => p.id == id

/-- The subcommand with a name. -/
def findSub (c : Command) (n : String) : Option Command := c.subcommands.find? fun s => s.name == n

/-- The members of a group of parameters. -/
def groupMembers (c : Command) (g : String) : List Param :=
  c.params.filter fun p => p.group == some g

/-- Whether an identifier names a group rather than a parameter. -/
def isGroup (c : Command) (id : String) : Bool := (c.groupMembers id).length > 0 && (c.find id).isNone

/-- The text of the help subcommand. -/
def helpAbout : String := "Print this message or the help of the given subcommand(s)"

/-- The `help` subcommand of a parsed tree: it takes the names of the commands to describe. -/
def helpCommand (parentBin : String) : Command :=
  let names : Param :=
    { id := "subcommand", valueName := "COMMAND", help := "Print help for the subcommand(s)",
      action := .values }
  { name := "help", binName := parentBin ++ " help", about := helpAbout, hasHelpFlag := false,
    params := [names] }

mutual
/-- The tree as it is parsed; `globals` are the global parameters of the enclosing commands. -/
def prepareWith (globals : List Param) (parentBin : Option String) : Command → Command
  | c@{ subcommands, .. } =>
    let bin := match parentBin with | some p => p ++ " " ++ c.name | none => c.binName
    let inherited := globals.filter fun g => !(c.params.any fun p => p.id == g.id)
    let params := c.params ++ inherited
    let own := params.filter Param.global
    let helpFlag := if c.hasHelpFlag then [Param.helpFlag] else []
    let versionFlag := if c.version.isSome then [Param.versionFlag] else []
    let subs := prepareAll own bin subcommands
    let subs := if subcommands.isEmpty then subs else subs ++ [helpCommand bin]
    { c with binName := bin, params := params ++ helpFlag ++ versionFlag, subcommands := subs }
/-- `prepareWith` on each of a list of commands. -/
def prepareAll (globals : List Param) (parentBin : String) : List Command → List Command
  | [] => []
  | c :: cs => prepareWith globals (some parentBin) c :: prepareAll globals parentBin cs
end

/-- The tree as it is parsed. -/
def prepare (c : Command) : Command := prepareWith [] none c

mutual
/-- A copy of a command without parameters, to list it under `help`. -/
def helpCopy (parentBin : String) : Command → Command
  | c@{ subcommands, .. } =>
    let bin := parentBin ++ " " ++ c.name
    { name := c.name, binName := bin, about := c.about, hasHelpFlag := false,
      subcommands := helpCopies bin subcommands }
/-- `helpCopy` on each of a list of commands. -/
def helpCopies (parentBin : String) : List Command → List Command
  | [] => []
  | c :: cs => helpCopy parentBin c :: helpCopies parentBin cs
end

mutual
/-- The tree for completion scripts: as parsed, but `help` repeats the tree's commands. -/
def completionWith (globals : List Param) (parentBin : Option String) : Command → Command
  | c@{ subcommands, .. } =>
    let bin := match parentBin with | some p => p ++ " " ++ c.name | none => c.binName
    let inherited := globals.filter fun g => !(c.params.any fun p => p.id == g.id)
    let params := c.params ++ inherited
    let own := params.filter Param.global
    let helpFlag := if c.hasHelpFlag then [Param.helpFlag] else []
    let versionFlag := if c.version.isSome then [Param.versionFlag] else []
    let subs := completionAll own bin subcommands
    let helpBin := bin ++ " help"
    let helpOfHelp : Command :=
      { name := "help", binName := helpBin ++ " help", about := helpAbout, hasHelpFlag := false }
    let helpTree : Command :=
      { name := "help", binName := helpBin, about := helpAbout, hasHelpFlag := false,
        subcommands := helpCopies helpBin subcommands ++ [helpOfHelp] }
    let subs := if subcommands.isEmpty then subs else subs ++ [helpTree]
    { c with binName := bin, params := params ++ helpFlag ++ versionFlag, subcommands := subs }
/-- `completionWith` on each of a list of commands. -/
def completionAll (globals : List Param) (parentBin : String) : List Command → List Command
  | [] => []
  | c :: cs => completionWith globals (some parentBin) c :: completionAll globals parentBin cs
end

/-- The tree for completion scripts, under a given program name. -/
def prepareForCompletion (c : Command) (program : String) : Command :=
  completionWith [] none { c with binName := program }

mutual
/-- Every command of the tree below this one, depth first, each before its own subcommands. -/
def descendants : Command → List Command
  | { subcommands, .. } => descendantsOf subcommands
/-- Every command of a list of trees, depth first. -/
def descendantsOf : List Command → List Command
  | [] => []
  | c :: cs => c :: (descendants c ++ descendantsOf cs)
end

end Command

end WordMachine.Cli
