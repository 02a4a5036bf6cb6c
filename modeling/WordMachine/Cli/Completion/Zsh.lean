import WordMachine.Cli.Completion.Common
import WordMachine.Cli.Usage

/-!
# Completion scripts for zsh

One `_arguments` specification per command, nested through `case` on the subcommand typed, and
one function per command that lists its subcommands with their descriptions. A counter is
marked repeatable (`*`); an option names its value and how to complete it (`_files` for a
path, the list of choices for a fixed set, `_default` otherwise). A command's functions are
named after its full name, each space written `__subcmd__`.
-/

namespace WordMachine.Cli.Completion.Zsh

/-- Replaces characters by texts, in order. -/
def replaceAll (pairs : List (Char × String)) (s : String) : String :=
  pairs.foldl (fun s (c, r) => replaceChar c r s) s

/-- The name of a command's functions: its full name with each space written `__subcmd__`. -/
def functionName (bin : String) : String := replaceChar (Char.ofNat 32) "__subcmd__" bin

/-- Escapes a help text for a single-quoted specification in brackets. -/
def escapeHelp (s : String) : String :=
  replaceAll [(Char.ofNat 92, "\\\\"), (Char.ofNat 39, "\x27\\\x27\x27"), (Char.ofNat 91, "\\["),
    (Char.ofNat 93, "\\]"), (Char.ofNat 58, "\\:"), (Char.ofNat 36, "\\$"), (Char.ofNat 96, "\\\x60"),
    (Char.ofNat 10, " ")] s

/-- What completes the value of a parameter: its choices, file names for a path, and the
shell's default completion otherwise. -/
def valueCompletion (p : Param) : String :=
  match p.kind with
  | .choice names => "(" ++ " ".intercalate names ++ ")"
  | _ => match p.hint with
    | .filePath => "_files"
    | .unknown => "_default"

/-- The specifications of the options of a command. -/
def optionSpecs (c : Command) : List String :=
  (options c).flatMap fun p =>
    let help := escapeHelp p.help
    let multiple := if p.action == .counter || p.action == .values then "*" else ""
    let vn := if p.valueName.isEmpty then " " else p.valueName
    let vc := ":" ++ vn ++ ":" ++ valueCompletion p
    (p.short.toList.map fun s => "\x27" ++ multiple ++ "-" ++ s.toString ++ "+[" ++ help ++ "]" ++ vc ++ "\x27 \\") ++
      (p.long.toList.map fun l => "\x27" ++ multiple ++ "--" ++ l ++ "=[" ++ help ++ "]" ++ vc ++ "\x27 \\")

/-- The specifications of the flags of a command. -/
def flagSpecs (c : Command) : List String :=
  (flags c).flatMap fun p =>
    let help := escapeHelp p.help
    let multiple := if p.action == .counter || p.action == .values then "*" else ""
    (p.short.toList.map fun s => "\x27" ++ multiple ++ "-" ++ s.toString ++ "[" ++ help ++ "]\x27 \\") ++
      (p.long.toList.map fun l => "\x27" ++ multiple ++ "--" ++ l ++ "[" ++ help ++ "]\x27 \\")

/-- The specifications of the positional parameters of a command. -/
def positionalSpecs (c : Command) : List String :=
  c.positionals.map fun p =>
    let manyValues := p.action == .values
    let cardinality := if manyValues && c.subcommands.isEmpty then "*:" else if !p.required then ":" else ""
    let help := if p.help.isEmpty then ""
      else replaceAll [(Char.ofNat 91, "\\["), (Char.ofNat 93, "\\]"), (Char.ofNat 39, "\x27\\\x27\x27"),
        (Char.ofNat 58, "\\:")] (" -- " ++ p.help)
    "\x27" ++ cardinality ++ ":" ++ p.id ++ help ++ ":" ++ valueCompletion p ++ "\x27 \\"

/-- The `_arguments` call of a command. -/
def arguments (c : Command) : String :=
  let subs := if c.subcommands.isEmpty then []
    else ["\":: :_" ++ functionName c.binName ++ "_commands\" \\",
      "\"*::: :->" ++ c.name ++ "\" \\"]
  "\n".intercalate (["_arguments \"$\x7b_arguments_options[@]\x7d\" : \\"] ++ optionSpecs c ++ flagSpecs c ++
    positionalSpecs c ++ subs ++ ["&& ret=0"])

mutual
/-- The nested `case` that hands the words after a subcommand to it. -/
def subcommandCases : Command → String
  | c@{ subcommands, .. } =>
    if subcommands.isEmpty then ""
    else
      let name := c.name
      let pos := toString (c.positionals.length + 1)
      let hyphen := replaceChar (Char.ofNat 32) "-" c.binName
      let cases := "\n".intercalate (casesOf subcommands)
      "\n" ++
      "    case $state in\n" ++
      "    (" ++
      name ++
      ")\n" ++
      "        words=($line[" ++
      pos ++
      "] \"$\x7bwords[@]\x7d\")\n" ++
      "        (( CURRENT += 1 ))\n" ++
      "        curcontext=\"$\x7bcurcontext%:*:*\x7d:" ++
      hyphen ++
      "-command-$line[" ++
      pos ++
      "]:\"\n" ++
      "        case $line[" ++
      pos ++
      "] in\n" ++
      "            " ++
      cases ++
      "\n" ++
      "        esac\n" ++
      "    ;;\n" ++
      "esac"
/-- The case of each of a list of subcommands. -/
def casesOf : List Command → List String
  | [] => []
  | s :: ss =>
    let children := subcommandCases s
    "\n".intercalate (["(" ++ s.name ++ ")", arguments s] ++ (if children.isEmpty then [] else [children]) ++
      [";;"]) :: casesOf ss
end

/-- The function that lists the subcommands of a command. -/
def commandsFunction (c : Command) : String :=
  let underscore := functionName c.binName
  let bin := c.binName
  let items := c.subcommands.map fun s => "\x27" ++ s.name ++ ":" ++ escapeHelp s.about ++ "\x27 \\"
  let list := if items.isEmpty then "" else "\n".intercalate ([""] ++ items ++ ["    "])
  "(( $+functions[_" ++
  underscore ++
  "_commands] )) ||\n" ++
  "_" ++
  underscore ++
  "_commands() \x7b\n" ++
  "    local commands; commands=(" ++
  list ++
  ")\n" ++
  "    _describe -t commands '" ++
  bin ++
  " commands' commands \"$@\"\n" ++
  "\x7d"

/-- Orders texts. -/
def sortTexts (xs : List String) : List String := xs.mergeSort fun a b => decide (a ≤ b)

/-- The script for a tree named `bin`. -/
def script (c : Command) : String :=
  let bin := c.binName
  let all := (pathsOf " " bin c.subcommands).map Prod.snd
  let bins := dedup (sortTexts (all.map (·.binName)))
  let others := bins.filterMap fun b => (all.find? (·.binName == b)).map commandsFunction
  let details := "\n".intercalate (commandsFunction c :: others)
  let args := arguments c
  let subs := subcommandCases c
  "#compdef " ++
  bin ++
  "\n" ++
  "\n" ++
  "autoload -U is-at-least\n" ++
  "\n" ++
  "_" ++
  bin ++
  "() \x7b\n" ++
  "    typeset -A opt_args\n" ++
  "    typeset -a _arguments_options\n" ++
  "    local ret=1\n" ++
  "\n" ++
  "    if is-at-least 5.2; then\n" ++
  "        _arguments_options=(-s -S -C)\n" ++
  "    else\n" ++
  "        _arguments_options=(-s -C)\n" ++
  "    fi\n" ++
  "\n" ++
  "    local context curcontext=\"$curcontext\" state line\n" ++
  "    " ++
  args ++
  subs ++
  "\n" ++
  "\x7d\n" ++
  "\n" ++
  details ++
  "\n" ++
  "\n" ++
  "if [ \"$funcstack[1]\" = \"_" ++
  bin ++
  "\" ]; then\n" ++
  "    _" ++
  bin ++
  " \"$@\"\n" ++
  "else\n" ++
  "    compdef _" ++
  bin ++
  " " ++
  bin ++
  "\n" ++
  "fi\n"

end WordMachine.Cli.Completion.Zsh
