import WordMachine.Cli.Completion.Common

/-!
# Completion scripts for PowerShell

One `switch` over command paths (`tool;sub`) giving the completion results at that point: the
short and long names of the options, then of the flags, as parameter names, then the
subcommands as parameter values. An upper-case short name is listed with a trailing space, so
that PowerShell, which ignores case, keeps `-c` and `-C` apart.
-/

namespace WordMachine.Cli.Completion.PowerShell

/-- The description shown for a result: the help text, or the result itself. -/
def tooltip (help : String) (fallback : String) : String :=
  if help.isEmpty then fallback else doubleQuotes help

/-- One completion result. -/
def result (text listed kind tip : String) : String :=
  "\n            [CompletionResult]::new(" ++ "\x27" ++ text ++ "\x27, \x27" ++ listed ++
    "\x27, [CompletionResultType]::" ++ kind ++ ", \x27" ++ tip ++ "\x27)"

/-- The results of one parameter. -/
def paramResults (p : Param) : String :=
  let shorts := p.short.toList.map fun s =>
    result ("-" ++ s.toString) ("-" ++ s.toString ++ (if s.isUpper then " " else ""))
      "ParameterName" (tooltip p.help s.toString)
  let longs := p.long.toList.map fun l =>
    result ("--" ++ l) ("--" ++ l) "ParameterName" (tooltip p.help l)
  String.join (shorts ++ longs)

/-- The case of one command. -/
def entry (name : String) (c : Command) : String :=
  let params := String.join ((options c ++ flags c).map paramResults)
  let subs := String.join (c.subcommands.map fun s =>
    result s.name s.name "ParameterValue" (tooltip s.about s.name))
  "\n        \x27" ++ name ++ "\x27 \x7b" ++ params ++ subs ++ "\n            break\n        \x7d"

/-- The script for a tree named `bin`. -/
def script (c : Command) : String :=
  let bin := c.binName
  let cases := String.join ((paths ";" bin c).map fun (n, c) => entry n c)
  "\n" ++
  "using namespace System.Management.Automation\n" ++
  "using namespace System.Management.Automation.Language\n" ++
  "\n" ++
  "Register-ArgumentCompleter -Native -CommandName '" ++
  bin ++
  "' -ScriptBlock \x7b\n" ++
  "    param($wordToComplete, $commandAst, $cursorPosition)\n" ++
  "\n" ++
  "    $commandElements = $commandAst.CommandElements\n" ++
  "    $command = @(\n" ++
  "        '" ++
  bin ++
  "'\n" ++
  "        for ($i = 1; $i -lt $commandElements.Count; $i++) \x7b\n" ++
  "            $element = $commandElements[$i]\n" ++
  "            if ($element -isnot [StringConstantExpressionAst] -or\n" ++
  "                $element.StringConstantType -ne [StringConstantType]::BareWord -or\n" ++
  "                $element.Value.StartsWith('-') -or\n" ++
  "                $element.Value -eq $wordToComplete) \x7b\n" ++
  "                break\n" ++
  "        \x7d\n" ++
  "        $element.Value\n" ++
  "    \x7d) -join ';'\n" ++
  "\n" ++
  "    $completions = @(switch ($command) \x7b" ++
  cases ++
  "\n" ++
  "    \x7d)\n" ++
  "\n" ++
  "    $completions.Where\x7b $_.CompletionText -like \"$wordToComplete*\" \x7d |\n" ++
  "        Sort-Object -Property ListItemText\n" ++
  "\x7d\n"

end WordMachine.Cli.Completion.PowerShell
