import WordMachine.Cli.Command

/-!
# Completion scripts: the common part

A completion script describes the tree of commands to a shell: for each command, the names of
its switches and options, the values its options take, and its subcommands. The tree described
is `Command.prepareForCompletion`, in which `help` lists the commands it can describe.

Options are the parameters with names that take a value; flags those with names that take none.
Each kind is listed in declaration order.
-/

namespace WordMachine.Cli.Completion

/-- The named parameters that take a value. -/
def options (c : Command) : List Param := c.params.filter fun p => !p.isPositional && p.takesValue

/-- The named parameters that take no value. -/
def flags (c : Command) : List Param := c.params.filter fun p => !p.isPositional && !p.takesValue

/-- Replaces every occurrence of a character by a text. -/
def replaceChar (c : Char) (rep : String) (s : String) : String :=
  String.join (s.toList.map fun x => if x == c then rep else x.toString)

/-- Doubles the single quotes of a text, for single-quoted strings of some shells. -/
def doubleQuotes (s : String) : String := replaceChar (Char.ofNat 39) "\x27\x27" s

mutual
/-- The commands of a tree, depth first, each before its subcommands, with the name it is
listed under: its parent's name, `sep`, and its own. -/
def paths (sep : String) (name : String) : Command → List (String × Command)
  | c@{ subcommands, .. } => (name, c) :: pathsOf sep name subcommands
/-- `paths` for the subcommands of a command listed under `parent`. -/
def pathsOf (sep : String) (parent : String) : List Command → List (String × Command)
  | [] => []
  | c :: cs => paths sep (parent ++ sep ++ c.name) c ++ pathsOf sep parent cs
end

end WordMachine.Cli.Completion
