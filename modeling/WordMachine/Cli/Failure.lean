import WordMachine.Cli.Help

/-!
# Refused command lines

A command line the program cannot accept is refused with a message on the error stream and
status `2`. `Refusal.render` lays it out: `error: ` and the message, then the suggestions (a
similar subcommand, argument or value, and further tips), then the usage line that fits the
mistake, then where to find more help, the command's own `--help` flag, or its `help`
subcommand when it has no flag.
-/

namespace WordMachine.Cli

/-- What is wrong with a command line. -/
inductive Failure where
  /-- A word that no parameter takes; `similar` is a parameter of a near name. -/
  | unknownArgument (arg : String) (similar : Option String)
  /-- A word in the place of a subcommand that names none; `similar` are near names. -/
  | unknownSubcommand (name : String) (similar : List String)
  /-- A value outside a fixed set; `similar` is a member of the set of a near name. -/
  | invalidValue (arg value : String) (possible : List String) (similar : Option String)
  /-- An option given without its value. -/
  | emptyValue (arg : String) (possible : List String)
  /-- A value that does not read as the option's kind of value. -/
  | badValue (arg value reason : String)
  /-- A value attached to a switch. -/
  | unexpectedValue (value arg : String)
  /-- A switch or option given twice. -/
  | repeated (arg : String)
  /-- Parameters given together that exclude each other. -/
  | conflict (arg : String) (others : List String)
  /-- Required parameters not given. -/
  | missingRequired (args : List String)
  /-- No subcommand where one is required. -/
  | missingSubcommand (bin : String) (subcommands : List String)
  deriving DecidableEq, Repr

/-- A list of values in brackets, after a label. -/
def bracketed (label : String) (values : List String) : String :=
  if values.isEmpty then "" else "\n  [" ++ label ++ ": " ++ ", ".intercalate values ++ "]"

/-- The names in quotes, separated by commas. -/
def quotedList (names : List String) : String := ", ".intercalate (names.map fun n => "'" ++ n ++ "'")

namespace Failure

/-- The message of a refusal. -/
def message : Failure → String
  | .unknownArgument arg _ => "unexpected argument '" ++ arg ++ "' found"
  | .unknownSubcommand name _ => "unrecognized subcommand '" ++ name ++ "'"
  | .invalidValue arg value possible _ =>
    (if value.isEmpty then "a value is required for '" ++ arg ++ "' but none was supplied"
     else "invalid value '" ++ value ++ "' for '" ++ arg ++ "'") ++ bracketed "possible values" possible
  | .emptyValue arg possible =>
    "a value is required for '" ++ arg ++ "' but none was supplied" ++
      bracketed "possible values" possible
  | .badValue arg value reason => "invalid value '" ++ value ++ "' for '" ++ arg ++ "': " ++ reason
  | .unexpectedValue value arg =>
    "unexpected value '" ++ value ++ "' for '" ++ arg ++ "' found; no more were expected"
  | .repeated arg => "the argument '" ++ arg ++ "' cannot be used multiple times"
  | .conflict arg others =>
    "the argument '" ++ arg ++ "' cannot be used with" ++
      match others with
      | [] => " one or more of the other specified arguments"
      | [o] => " '" ++ o ++ "'"
      | os => ":" ++ String.join (os.map ("\n  " ++ ·))
  | .missingRequired args =>
    "the following required arguments were not provided:" ++ String.join (args.map ("\n  " ++ ·))
  | .missingSubcommand bin subs =>
    "'" ++ bin ++ "' requires a subcommand but one was not provided" ++ bracketed "subcommands" subs

/-- The suggestion of similar names, if the refusal has one. -/
def suggestion : Failure → Option String
  | .unknownSubcommand _ [] => none
  | .unknownSubcommand _ [s] => some ("  tip: a similar subcommand exists: '" ++ s ++ "'")
  | .unknownSubcommand _ ss => some ("  tip: some similar subcommands exist: " ++ quotedList ss)
  | .unknownArgument _ (some a) => some ("  tip: a similar argument exists: '" ++ a ++ "'")
  | .invalidValue _ _ _ (some v) => some ("  tip: a similar value exists: '" ++ v ++ "'")
  | _ => none

end Failure

/-- A refusal: what is wrong, with the hints that go with it. -/
structure Refusal where
  failure : Failure
  /-- Further hints, each printed after `tip: `. -/
  tips : List String := []
  /-- The usage line to show, if any. -/
  usage : Option String := none
  /-- How to ask for help: `--help`, `help`, or nothing. -/
  helpHint : Option String := some "--help"
  deriving DecidableEq, Repr

/-- The full text of a refusal, ending with a newline. -/
def Refusal.render (r : Refusal) : String :=
  let similar := match r.failure.suggestion with
    | some s => "\n\n" ++ s
    | none => ""
  let tips := if r.tips.isEmpty then ""
    else (if similar.isEmpty then "\n" else "") ++ String.join (r.tips.map ("\n  tip: " ++ ·))
  let usage := match r.usage with
    | some u => "\n\nUsage: " ++ u
    | none => ""
  let more := match r.helpHint with
    | some h => "\n\nFor more information, try '" ++ h ++ "'.\n"
    | none => "\n"
  "error: " ++ r.failure.message ++ similar ++ tips ++ usage ++ more

/-- How a command tells where more help is: its help flag, else its `help` subcommand. -/
def Command.helpHint (c : Command) : Option String :=
  if c.hasHelpFlag then some "--help" else if c.subcommands.isEmpty then none else some "help"

end WordMachine.Cli
