import WordMachine.Cli.Completion.Common

/-!
# Completion scripts for elvish

One map from command paths (`tool;sub`) to the candidates at that point: the short and long
names of the options, then of the flags, then the subcommands, each with its description.
-/

namespace WordMachine.Cli.Completion.Elvish

/-- The description shown for a candidate: the help text, or the candidate itself. -/
def tooltip (help : String) (fallback : String) : String :=
  if help.isEmpty then fallback else doubleQuotes help

/-- The candidates of one parameter. -/
def paramCandidates (p : Param) : String :=
  let pre := "\n            cand "
  let shorts := p.short.toList.map fun s => pre ++ "-" ++ s.toString ++ " " ++
    "\x27" ++ tooltip p.help s.toString ++ "\x27"
  let longs := p.long.toList.map fun l => pre ++ "--" ++ l ++ " " ++ "\x27" ++ tooltip p.help l ++ "\x27"
  String.join (shorts ++ longs)

/-- The entry of one command in the map. -/
def entry (name : String) (c : Command) : String :=
  let params := String.join ((options c ++ flags c).map paramCandidates)
  let subs := String.join (c.subcommands.map fun s =>
    "\n            cand " ++ s.name ++ " " ++ "\x27" ++ tooltip s.about s.name ++ "\x27")
  "\n        &" ++ "\x27" ++ name ++ "\x27" ++ "= \x7b" ++ params ++ subs ++ "\n        \x7d"

/-- The script for a tree named `bin`. -/
def script (c : Command) : String :=
  let bin := c.binName
  let cases := String.join ((paths ";" bin c).map fun (n, c) => entry n c)
  "\n" ++
  "use builtin;\n" ++
  "use str;\n" ++
  "\n" ++
  "set edit:completion:arg-completer[" ++
  bin ++
  "] = \x7b|@words|\n" ++
  "    fn spaces \x7b|n|\n" ++
  "        builtin:repeat $n ' ' | str:join ''\n" ++
  "    \x7d\n" ++
  "    fn cand \x7b|text desc|\n" ++
  "        edit:complex-candidate $text &display=$text' '(spaces (- 14 (wcswidth $text)))$desc\n" ++
  "    \x7d\n" ++
  "    var command = '" ++
  bin ++
  "'\n" ++
  "    for word $words[1..-1] \x7b\n" ++
  "        if (str:has-prefix $word '-') \x7b\n" ++
  "            break\n" ++
  "        \x7d\n" ++
  "        set command = $command';'$word\n" ++
  "    \x7d\n" ++
  "    var completions = [" ++
  cases ++
  "\n" ++
  "    ]\n" ++
  "    $completions[$command]\n" ++
  "\x7d\n"

end WordMachine.Cli.Completion.Elvish
