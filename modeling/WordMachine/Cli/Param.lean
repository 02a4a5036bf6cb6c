/-!
# Command-line parameters

A parameter is a switch (`-c`, `--color`), a counter (`-vvv`), an option that takes a value
(`--trace <TRACE>`), or a positional argument (`<INPUT>`). Each has the text that names it in
messages (`Param.render`): its long name, else its short name, followed by its value name;
a positional is its value name alone, in angle brackets when required and square brackets
otherwise.
-/

namespace WordMachine.Cli

/-- What a parameter's value must look like. -/
inductive ValueKind where
  /-- Any text. -/
  | text
  /-- A decimal integer read as a signed 64-bit number, then required to lie in `lo ..= hi`. -/
  | ranged (lo hi : Int)
  /-- A decimal integer that fits in 64 unsigned bits. -/
  | natural
  /-- One of the listed names. -/
  | choice (names : List String)
  deriving DecidableEq, Repr

/-- What an occurrence of a parameter does. -/
inductive ParamAction where
  /-- Turns a switch on; a second occurrence is an error. -/
  | flag
  /-- Counts its occurrences. -/
  | counter
  /-- Takes one value; a second occurrence is an error. -/
  | value
  /-- Takes any number of values (a positional that collects the rest). -/
  | values
  /-- Prints the help page. -/
  | help
  /-- Prints the version. -/
  | version
  deriving DecidableEq, Repr

/-- The kind of text that completes a parameter's value in a shell. -/
inductive ValueHint where
  | unknown
  | filePath
  deriving DecidableEq, Repr

/-- A command-line parameter. -/
structure Param where
  /-- The name the program knows it by. -/
  id : String
  short : Option Char := none
  long : Option String := none
  /-- The name of its value in messages. -/
  valueName : String := ""
  /-- One line of help. -/
  help : String
  action : ParamAction
  kind : ValueKind := .text
  hint : ValueHint := .unknown
  required : Bool := false
  /-- Also accepted by every subcommand. -/
  global : Bool := false
  /-- The group of mutually exclusive parameters it belongs to. -/
  group : Option String := none
  /-- The value it has when absent. -/
  default : Option String := none
  /-- Its rank in help listings; unranked parameters come last. -/
  order : Option Nat := none
  deriving DecidableEq, Repr

namespace Param

/-- A positional parameter has neither a short nor a long name. -/
def isPositional (p : Param) : Bool := p.short.isNone && p.long.isNone

/-- Whether occurrences carry values. -/
def takesValue (p : Param) : Bool := p.action == .value || p.action == .values

/-- The value name in brackets: angle brackets when required, square ones otherwise, and
`...` after a parameter that takes many values. -/
def valueText (p : Param) (required : Bool) : String :=
  let minValues := if p.action == .values then 0 else 1
  let core := if p.isPositional && (minValues == 0 || !required) then "[" ++ p.valueName ++ "]"
    else "<" ++ p.valueName ++ ">"
  if p.isPositional && p.action == .values then core ++ "..." else core

/-- The text after a parameter's name: its value, or `...` for a counter. -/
def suffix (p : Param) (required : Bool) : String :=
  if p.takesValue && !p.isPositional then " " ++ p.valueText required
  else if p.isPositional then p.valueText required
  else if p.action == .counter then "..."
  else ""

/-- The text that names a parameter in messages. -/
def renderAs (p : Param) (required : Bool) : String :=
  let name := match p.long, p.short with
    | some l, _ => "--" ++ l
    | none, some s => "-" ++ s.toString
    | none, none => ""
  name ++ p.suffix required

/-- The text that names a parameter in messages, required-ness as declared. -/
def render (p : Param) : String := p.renderAs p.required

/-- The value a parameter has when it does not appear. -/
def implicitDefault (p : Param) : Option String :=
  match p.default with
  | some d => some d
  | none => match p.action with
    | .flag => some "false"
    | .counter => some "0"
    | _ => none

/-- The help flag every command has unless told otherwise. -/
def helpFlag : Param :=
  { id := "help", short := some 'h', long := some "help", help := "Print help", action := .help }

/-- The version flag of a command that has a version. -/
def versionFlag : Param :=
  { id := "version", short := some 'V', long := some "version", help := "Print version",
    action := .version }

end Param

end WordMachine.Cli
