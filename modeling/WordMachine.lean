import WordMachine.Word
import WordMachine.Register
import WordMachine.Operand
import WordMachine.Memory
import WordMachine.Text.Printable
import WordMachine.Text.GraphemeExtend
import WordMachine.Text.Alphanumeric
import WordMachine.Text.Blank
import WordMachine.Text.Utf8
import WordMachine.Text.Escape
import WordMachine.IoError
import WordMachine.Fault
import WordMachine.Instruction.Basic
import WordMachine.Instruction.Decode
import WordMachine.Console
import WordMachine.Trace
import WordMachine.Diagnostic.Event
import WordMachine.Machine.Basic
import WordMachine.Machine.Step
import WordMachine.Machine.Run
import WordMachine.Image
import WordMachine.Listing
import WordMachine.Session
import WordMachine.Cli.Param
import WordMachine.Cli.Command
import WordMachine.Text.Similarity
import WordMachine.Text.Integer
import WordMachine.Text.CaseFold
import WordMachine.Text.CharSet
import WordMachine.Text.Regex
import WordMachine.Text.Regex.Syntax
import WordMachine.Cli.Usage
import WordMachine.Cli.Help
import WordMachine.Cli.Failure
import WordMachine.Cli.Parser
import WordMachine.Cli.Interface
import WordMachine.Log.Record
import WordMachine.Log.Filter
import WordMachine.Log.Format
import WordMachine.Log.Logger
import WordMachine.Cli.Files
import WordMachine.Cli.Program
import WordMachine.Cli.Completion.Common
import WordMachine.Cli.Completion.Elvish
import WordMachine.Cli.Completion.PowerShell
import WordMachine.Cli.Completion.Fish
import WordMachine.Cli.Completion.Bash
import WordMachine.Cli.Completion.Zsh
import WordMachine.Cli.Completion.Script
import WordMachine.Main
import WordMachine.Proofs.Decoding
import WordMachine.Proofs.Semantics
import WordMachine.Proofs.Step
import WordMachine.Proofs.Run
import WordMachine.Proofs.CallStack
import WordMachine.Proofs.Listing
import WordMachine.Proofs.Utf8
import WordMachine.Proofs.Console
import WordMachine.Proofs.LineInput
import WordMachine.Proofs.Image
import WordMachine.Proofs.Tracing
import WordMachine.Proofs.TraceText
