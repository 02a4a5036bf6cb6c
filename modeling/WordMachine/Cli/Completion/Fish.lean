import WordMachine.Cli.Completion.Common

/-!
# Completion scripts for fish

One `complete` line per name and per subcommand. At the top level a line applies while no
subcommand has been given (`__fish_tool_needs_command`, which skips the top-level switches with
`argparse`); below, while a given subcommand is the one in use. Subcommands are described two
levels deep.
-/

namespace WordMachine.Cli.Completion.Fish

/-- Escapes a text for a single-quoted fish string. -/
def escape (s : String) : String := replaceChar (Char.ofNat 39) "\\\x27" (replaceChar (Char.ofNat 92) "\\\\" s)

/-- The name of the tree in function names. -/
def functionName (bin : String) : String := replaceChar (Char.ofNat 45) "_" bin

/-- The specifications `s/long` of the top-level names, for `argparse`. -/
def optionSpecs (c : Command) : String :=
  String.join ((c.params.filter fun p => !p.isPositional).map fun p =>
    let short := p.short.map Char.toString
    let long := p.long.map escape
    let name := match short, long with
      | some s, some l => s ++ "/" ++ l
      | some s, none => s
      | none, some l => l
      | none, none => ""
    " " ++ name ++ (if p.takesValue then "=" else ""))

/-- The helper functions that find the subcommand in use. -/
def helpers (name : String) (specs : String) : String :=
  "# Print an optspec for argparse to handle cmd's options that are independent of any subcommand.\n" ++
  "function __fish_" ++
  name ++
  "_global_optspecs\n" ++
  "    string join \\n" ++
  specs ++
  "\n" ++
  "end\n" ++
  "\n" ++
  "function __fish_" ++
  name ++
  "_needs_command\n" ++
  "    # Figure out if the current invocation already has a command.\n" ++
  "    set -l cmd (commandline -opc)\n" ++
  "    set -e cmd[1]\n" ++
  "    argparse -s (__fish_" ++
  name ++
  "_global_optspecs) -- $cmd 2>/dev/null\n" ++
  "    or return\n" ++
  "    if set -q argv[1]\n" ++
  "        # Also print the command, so this can be used to figure out what it is.\n" ++
  "        echo $argv[1]\n" ++
  "        return 1\n" ++
  "    end\n" ++
  "    return 0\n" ++
  "end\n" ++
  "\n" ++
  "function __fish_" ++
  name ++
  "_using_subcommand\n" ++
  "    set -l cmd (__fish_" ++
  name ++
  "_needs_command)\n" ++
  "    test -z \"$cmd\"\n" ++
  "    and return 1\n" ++
  "    contains -- $cmd[1] $argv\n" ++
  "end\n" ++
  "\n"

/-- What completes the value of an option. -/
def valueCompletion (p : Param) : String :=
  if !p.takesValue then ""
  else match p.kind with
    | .choice names => " -r -f -a \"" ++ " ".intercalate names ++ "\""
    | _ => match p.hint with
      | .filePath => " -r -F"
      | .unknown => " -r"

/-- The line of one parameter. -/
def paramLine (base : String) (p : Param) : String :=
  base ++ String.join (p.short.toList.map fun s => " -s " ++ s.toString) ++
    String.join (p.long.toList.map fun l => " -l " ++ escape l) ++
    (if p.help.isEmpty then "" else " -d " ++ "\x27" ++ escape p.help ++ "\x27") ++
    valueCompletion p ++ "\n"

/-- The condition under which the lines of a command apply. -/
def condition (needs inUse : String) (parents : List String) (c : Command) : Option String :=
  match parents with
  | [] => some (if c.subcommands.isEmpty then "" else " -n \"" ++ needs ++ "\"")
  | [p] =>
    let others := if c.subcommands.isEmpty then ""
      else "; and not __fish_seen_subcommand_from" ++ String.join (c.subcommands.map (" " ++ ·.name))
    some (" -n \"" ++ inUse ++ " " ++ p ++ others ++ "\"")
  | [p, q] => some (" -n \"" ++ inUse ++ " " ++ p ++ "; and __fish_seen_subcommand_from " ++ q ++ "\"")
  | _ => none

mutual
/-- The lines of a command and of its subcommands. -/
def lines (root needs inUse : String) (parents : List String) : Command → String
  | c@{ subcommands, .. } =>
    match condition needs inUse parents c with
    | none => ""
    | some cond =>
      let base := "complete -c " ++ root ++ cond
      let params := String.join ((options c ++ flags c).map (paramLine base))
      let base := if c.positionals.isEmpty then base ++ " -f" else base
      let subs := String.join (subcommands.map fun s =>
        base ++ " -a \"" ++ s.name ++ "\"" ++
          (if s.about.isEmpty then "" else " -d " ++ "\x27" ++ escape s.about ++ "\x27") ++ "\n")
      params ++ subs ++ linesOf root needs inUse parents subcommands
/-- `lines` for each subcommand of a command. -/
def linesOf (root needs inUse : String) (parents : List String) : List Command → String
  | [] => ""
  | s :: ss => lines root needs inUse (parents ++ [s.name]) s ++ linesOf root needs inUse parents ss
end

/-- The script for a tree named `bin`. -/
def script (c : Command) : String :=
  let name := functionName c.binName
  let needs := "__fish_" ++ name ++ "_needs_command"
  let inUse := "__fish_" ++ name ++ "_using_subcommand"
  if c.subcommands.isEmpty then
    lines c.binName "__fish_use_subcommand" "__fish_seen_subcommand_from" [] c
  else helpers name (optionSpecs c) ++ lines c.binName needs inUse [] c

end WordMachine.Cli.Completion.Fish
