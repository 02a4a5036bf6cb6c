import WordMachine.Cli.Completion.Common

/-!
# Completion scripts for bash

One function that first finds the subcommand in use by walking the words typed so far through
a table of `parent,name` pairs, then offers that command's names, positional values and
subcommands, or, right after an option, the values of that option (file names for options that
take a path).

Commands are known in the script by names built from the program's name, with its dashes
written `__`, and `__subcmd__` before each subcommand's name. The cases that offer a command's
words spell the same full name with each dash, the program's own included, written
`__subcmd__`. Positional parameters offer their choices, if they have any.
-/

namespace WordMachine.Cli.Completion.Bash

/-- A command name as the script writes it, dashes written `__`. -/
def functionName (bin : String) : String := replaceChar (Char.ofNat 45) "__" bin

/-- The label of the case that offers a subcommand's words: its full name with spaces and
dashes written `__subcmd__`. -/
def caseLabel (bin : String) : String :=
  replaceChar (Char.ofNat 45) "__subcmd__" (replaceChar (Char.ofNat 32) "__subcmd__" bin)

/-- The command at a path of names below a command. -/
def find (c : Command) : List String → Option Command
  | [] => some c
  | n :: ns => (c.findSub n).bind fun s => find s ns

/-- Orders by a key of three texts. -/
def sortTriples (xs : List (String × String × String)) : List (String × String × String) :=
  xs.mergeSort fun a b =>
    decide (a.1 < b.1) || (a.1 == b.1 && (decide (a.2.1 < b.2.1) || (a.2.1 == b.2.1 && decide (a.2.2 ≤ b.2.2))))

/-- Orders texts. -/
def sortTexts (xs : List String) : List String := xs.mergeSort fun a b => decide (a ≤ b)

mutual
/-- The triples `(parent, name, command)` of the table that finds the subcommand in use, for
a command below `parent` and its own subcommands. -/
def tableFor (parent : String) : Command → List (String × String × String)
  | s@{ subcommands, .. } =>
    let fn := parent ++ "__subcmd__" ++ functionName s.name
    (parent, s.name, fn) :: tableOf fn subcommands
/-- `tableFor` for each of a list of commands. -/
def tableOf (parent : String) : List Command → List (String × String × String)
  | [] => []
  | s :: ss => tableFor parent s ++ tableOf parent ss
end

/-- The words offered for a command: short names, long names, positional values, subcommands. -/
def words (c : Command) : String :=
  let shorts := (c.params.filter fun p => !p.isPositional).filterMap fun p => p.short.map ("-" ++ ·.toString)
  let longs := (c.params.filter fun p => !p.isPositional).filterMap fun p => p.long.map ("--" ++ ·)
  let positionals := c.positionals.flatMap fun p => match p.kind with
    | .choice names => names
    | _ => []
  " ".intercalate (shorts ++ longs ++ positionals ++ c.subcommands.map (·.name))

/-- What completes the value of an option. -/
def valuesFor (p : Param) : String :=
  match p.kind with
  | .choice names => "$(compgen -W \"" ++ " ".intercalate names ++ "\" -- \"$\x7bcur\x7d\")"
  | _ => "$(compgen -f \"$\x7bcur\x7d\")"

/-- The case of one name of an option, after the name itself. -/
def optionCase (p : Param) (name : String) : String :=
  let body : List String :=
    match p.hint with
    | .filePath =>
      ["local oldifs", "if [ -n \"$\x7bIFS+x\x7d\" ]; then", "    oldifs=\"$IFS\"", "fi",
        "IFS=$\x27\\n\x27", "COMPREPLY=(" ++ valuesFor p ++ ")",
        "if [ -n \"$\x7boldifs+x\x7d\" ]; then", "    IFS=\"$oldifs\"", "fi",
        "if [[ \"$\x7bBASH_VERSINFO[0]\x7d\" -ge 4 ]]; then", "    compopt -o filenames", "fi"]
    | .unknown => ["COMPREPLY=(" ++ valuesFor p ++ ")"]
  "\n                    ".intercalate ((name ++ ")") :: body ++ ["return 0", ";;"])

/-- The cases for the option values of a command. -/
def optionCases (c : Command) : String :=
  String.join ((options c).map fun p =>
    String.join (p.long.toList.map fun l => "\n                " ++ optionCase p ("--" ++ l)) ++
    String.join (p.short.toList.map fun s => "\n                " ++ optionCase p ("-" ++ s.toString)))

/-- The case of one subcommand, at its full name. -/
def subcommandCase (root : Command) (path : String) : String :=
  let names := (path.splitOn " ").drop 1
  match find root names with
  | none => ""
  | some c =>
    let opts := words c
    let details := optionCases c
    let level := toString (names.length + 1)
    let name := caseLabel path
    name ++
    ")\n" ++
    "            opts=\"" ++
    opts ++
    "\"\n" ++
    "            if [[ $\x7bcur\x7d == -* || $\x7bCOMP_CWORD\x7d -eq " ++
    level ++
    " ]] ; then\n" ++
    "                COMPREPLY=( $(compgen -W \"$\x7bopts\x7d\" -- \"$\x7bcur\x7d\") )\n" ++
    "                return 0\n" ++
    "            fi\n" ++
    "            case \"$\x7bprev\x7d\" in" ++
    details ++
    "\n" ++
    "                *)\n" ++
    "                    COMPREPLY=()\n" ++
    "                    ;;\n" ++
    "            esac\n" ++
    "            COMPREPLY=( $(compgen -W \"$\x7bopts\x7d\" -- \"$\x7bcur\x7d\") )\n" ++
    "            return 0\n" ++
    "            ;;"

/-- The script for a tree named `bin`. -/
def script (c : Command) : String :=
  let bin := c.binName
  let cmd := functionName bin
  let subcmds := String.join ((sortTriples (tableOf cmd c.subcommands)).map fun (parent, name, fn) =>
    "\n            " ++ parent ++ "," ++ name ++ ")\n                cmd=\"" ++ fn ++
      "\"\n                ;;")
  let subPaths := (sortTexts ((pathsOf " " bin c.subcommands).map fun (p, _) =>
    replaceChar (Char.ofNat 32) "__subcmd__" p)).map fun p => String.intercalate " " (p.splitOn "__subcmd__")
  let subdetails := String.join (subPaths.map fun p => "\n        " ++ subcommandCase c p)
  let opts := words c
  let details := optionCases c
  "_" ++
  cmd ++
  "() \x7b\n" ++
  "    local i cur prev opts cmd\n" ++
  "    COMPREPLY=()\n" ++
  "    if [[ \"$\x7bBASH_VERSINFO[0]\x7d\" -ge 4 ]]; then\n" ++
  "        cur=\"$2\"\n" ++
  "    else\n" ++
  "        cur=\"$\x7bCOMP_WORDS[COMP_CWORD]\x7d\"\n" ++
  "    fi\n" ++
  "    prev=\"$3\"\n" ++
  "    cmd=\"\"\n" ++
  "    opts=\"\"\n" ++
  "\n" ++
  "    for i in \"$\x7bCOMP_WORDS[@]:0:COMP_CWORD\x7d\"\n" ++
  "    do\n" ++
  "        case \"$\x7bcmd\x7d,$\x7bi\x7d\" in\n" ++
  "            \",$1\")\n" ++
  "                cmd=\"" ++
  cmd ++
  "\"\n" ++
  "                ;;" ++
  subcmds ++
  "\n" ++
  "            *)\n" ++
  "                ;;\n" ++
  "        esac\n" ++
  "    done\n" ++
  "\n" ++
  "    case \"$\x7bcmd\x7d\" in\n" ++
  "        " ++
  cmd ++
  ")\n" ++
  "            opts=\"" ++
  opts ++
  "\"\n" ++
  "            if [[ $\x7bcur\x7d == -* || $\x7bCOMP_CWORD\x7d -eq 1 ]] ; then\n" ++
  "                COMPREPLY=( $(compgen -W \"$\x7bopts\x7d\" -- \"$\x7bcur\x7d\") )\n" ++
  "                return 0\n" ++
  "            fi\n" ++
  "            case \"$\x7bprev\x7d\" in" ++
  details ++
  "\n" ++
  "                *)\n" ++
  "                    COMPREPLY=()\n" ++
  "                    ;;\n" ++
  "            esac\n" ++
  "            COMPREPLY=( $(compgen -W \"$\x7bopts\x7d\" -- \"$\x7bcur\x7d\") )\n" ++
  "            return 0\n" ++
  "            ;;" ++
  subdetails ++
  "\n" ++
  "    esac\n" ++
  "\x7d\n" ++
  "\n" ++
  "if [[ \"$\x7bBASH_VERSINFO[0]\x7d\" -eq 4 && \"$\x7bBASH_VERSINFO[1]\x7d\" -ge 4 || \"$\x7bBASH_VERSINFO[0]\x7d\" -gt 4 ]]; then\n" ++
  "    complete -F _" ++
  cmd ++
  " -o nosort -o bashdefault -o default " ++
  bin ++
  "\n" ++
  "else\n" ++
  "    complete -F _" ++
  cmd ++
  " -o bashdefault -o default " ++
  bin ++
  "\n" ++
  "fi\n"

end WordMachine.Cli.Completion.Bash
