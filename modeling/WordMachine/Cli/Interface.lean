import WordMachine.Cli.Parser
import WordMachine.Word

/-!
# The program's command line

The program is called `synacor` on the command line and `synacor-cli` as a package. It has
three commands: `run` loads a program image and runs it on the terminal, `disasm` lists the
instructions of an image, and `completion` prints a shell completion script. Four switches
apply to every command and choose the diagnostic log: `-v` (repeatable) for more of it, and
at most one of `--color`, `--no-color` and `--json` for its form.

`Invocation.ofArgs` reads the words after the program name into an `Invocation`, or into the
`Halt` (page or refusal) that ends the program at once.
-/

namespace WordMachine.Cli

/-- The shells that completion scripts are written for. -/
inductive Shell where
  | bash
  | elvish
  | fish
  | powershell
  | zsh
  deriving DecidableEq, Repr

/-- The shells, in the order they are listed. -/
def Shell.all : List Shell := [.bash, .elvish, .fish, .powershell, .zsh]

/-- The name of a shell on the command line. -/
def Shell.name : Shell → String
  | .bash => "bash"
  | .elvish => "elvish"
  | .fish => "fish"
  | .powershell => "powershell"
  | .zsh => "zsh"

/-- The shell of a name. -/
def Shell.ofName? (n : String) : Option Shell := Shell.all.find? (·.name == n)

namespace Interface

/-- `-v`, `--verbose`: counts how much diagnostic logging is wanted. -/
def verbose : Param :=
  { id := "verbose", short := some 'v', long := some "verbose", action := .counter, global := true,
    help := "Show more logs on stderr. Repeat for the per-instruction logs of the VM",
    order := some 0 }

/-- `-c`, `--color`. -/
def color : Param :=
  { id := "color", short := some 'c', long := some "color", action := .flag, global := true,
    help := "Force colored logs, even when stderr is not a terminal", group := some "format",
    order := some 1 }

/-- `-C`, `--no-color`. -/
def noColor : Param :=
  { id := "no_color", short := some 'C', long := some "no-color", action := .flag, global := true,
    help := "Never color the logs", group := some "format", order := some 2 }

/-- `-j`, `--json`. -/
def json : Param :=
  { id := "json", short := some 'j', long := some "json", action := .flag, global := true,
    help := "Write logs to stderr as JSON lines", group := some "format", order := some 3 }

/-- The program image of `run` and `disasm`. -/
def input : Param :=
  { id := "input", valueName := "INPUT", help := "Program image", action := .value,
    hint := .filePath, required := true }

/-- `-t`, `--trace`: the file that receives the trace of a run. -/
def trace : Param :=
  { id := "trace", short := some 't', long := some "trace", valueName := "TRACE",
    help := "Write a trace of every executed instruction to this file", action := .value,
    hint := .filePath, order := some 0 }

/-- `--pad-memory`. -/
def padMemory : Param :=
  { id := "pad_memory", long := some "pad-memory", action := .flag,
    help := "Extend the memory to the whole 15-bit address space", order := some 1 }

/-- `-s`, `--start`: the address where a listing starts. -/
def start : Param :=
  { id := "start", short := some 's', long := some "start", valueName := "START",
    help := "Address to start from", action := .value, kind := .ranged 0 65535,
    default := some "0", order := some 0 }

/-- `-n`, `--count`: the most entries a listing has. -/
def count : Param :=
  { id := "count", short := some 'n', long := some "count", valueName := "COUNT",
    help := "Maximum number of entries to print", action := .value, kind := .natural,
    order := some 1 }

/-- The shell of `completion`. -/
def shell : Param :=
  { id := "shell", valueName := "SHELL", help := "Shell to generate the completion script for",
    action := .value, kind := .choice (Shell.all.map Shell.name), required := true }

/-- The `run` command. -/
def run : Command :=
  { name := "run", about := "Load and run a program image", params := [input, trace, padMemory],
    order := some 0 }

/-- The `disasm` command. -/
def disasm : Command :=
  { name := "disasm", about := "Print the instructions of a program image",
    params := [input, start, count], order := some 1 }

/-- The `completion` command. -/
def completion : Command :=
  { name := "completion", about := "Generate shell completions", params := [shell],
    order := some 2 }

end Interface

/-- The whole command line, as declared. -/
def interface : Command :=
  { name := "synacor-cli", binName := "synacor",
    about := "An emulator for the Synacor challenge virtual machine", version := some "0.1.0",
    params := [Interface.verbose, Interface.color, Interface.noColor, Interface.json],
    subcommands := [Interface.run, Interface.disasm, Interface.completion],
    subcommandRequired := true, helpWhenEmpty := true }

/-- How the diagnostic log is asked for. -/
structure LogChoice where
  /-- How many times `-v` was given (at most 255). -/
  verbosity : Nat
  color : Bool
  noColor : Bool
  json : Bool
  deriving DecidableEq, Repr

/-- What the program is asked to do. -/
inductive Task where
  | run (input : String) (trace : Option String) (padMemory : Bool)
  | disasm (input : String) (start : Address) (count : Option Nat)
  | completion (shell : Shell)
  deriving DecidableEq, Repr

/-- A command line, read. -/
structure Invocation where
  logs : LogChoice
  task : Task
  deriving DecidableEq, Repr

namespace Invocation

/-- The first value found for a parameter of a command. -/
def valueOf (m : Matches) (id : String) : Option String := (m.lookup id).bind fun f => f.values.head?

/-- Whether a switch is on, after the global values are settled. -/
def switch (path : List (Command × Matches)) (id : String) : Bool :=
  ((globalValue path id).bind fun f => f.values.head?) == some "true"

/-- The task of the innermost command. -/
def taskOf (c : Command) (m : Matches) : Option Task :=
  if c.name == "run" then
    (valueOf m "input").map fun i => .run i (valueOf m "trace") (valueOf m "pad_memory" == some "true")
  else if c.name == "disasm" then
    (valueOf m "input").map fun i =>
      let start := match (valueOf m "start").map Text.readInt64 with
        | some (.ok n) => n.toNat.toUInt16
        | _ => 0
      let count := match (valueOf m "count").map Text.readUInt64 with
        | some (.ok n) => some n
        | _ => none
      .disasm i start count
  else if c.name == "completion" then
    ((valueOf m "shell").bind Shell.ofName?).map Task.completion
  else none

/-- Reads the words after the program name. -/
def ofArgs (args : List String) : Except Halt Invocation :=
  match parse interface args with
  | .error h => .error h
  | .ok path =>
    let verbosity := ((globalValue path "verbose").bind fun f => f.values.head?).bind String.toNat?
    let logs : LogChoice :=
      { verbosity := verbosity.getD 0, color := switch path "color",
        noColor := switch path "no_color", json := switch path "json" }
    match path.getLast? with
    | some (c, m) =>
      match taskOf c m with
      | some t => .ok { logs := logs, task := t }
      | none => .error (.helpAsError interface.prepare.helpPage)
    | none => .error (.helpAsError interface.prepare.helpPage)

end Invocation

end WordMachine.Cli
