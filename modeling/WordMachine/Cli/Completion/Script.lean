import WordMachine.Cli.Interface
import WordMachine.Cli.Completion.Bash
import WordMachine.Cli.Completion.Elvish
import WordMachine.Cli.Completion.Fish
import WordMachine.Cli.Completion.PowerShell
import WordMachine.Cli.Completion.Zsh

/-!
# Completion scripts

The completion script of the program for each shell. The script names the program by its
package name, `synacor-cli`, and describes the tree of its commands.
-/

namespace WordMachine.Cli.Completion

/-- The tree the scripts describe. -/
def tree : Command := interface.prepareForCompletion interface.name

/-- The completion script for a shell. -/
def script : Shell → String
  | .bash => Bash.script tree
  | .elvish => Elvish.script tree
  | .fish => Fish.script tree
  | .powershell => PowerShell.script tree
  | .zsh => Zsh.script tree

end WordMachine.Cli.Completion
