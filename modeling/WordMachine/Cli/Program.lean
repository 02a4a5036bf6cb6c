import WordMachine.Cli.Interface
import WordMachine.Cli.Files
import WordMachine.Log.Logger
import WordMachine.Machine.Run
import WordMachine.Listing
import WordMachine.Cli.Completion.Script

/-!
# The program

`Program.main` is the whole program from its command line to its exit: it reads the words,
sets up the diagnostic log (from `RUST_LOG` when that is a valid filter, else from `-v`), then
runs the task.

* `run` reads the image, loads it, creates the trace file if one is asked for, runs the program
  on the console until it stops, and writes the trace. A trace that cannot be written is only
  warned about; the run goes on without it. A trace sent to the program's own output or error
  stream goes through a buffer of 8 KiB, and shows up among the program's output or log lines
  where the buffer was sent on (`TraceFlush`), the rest once the run is over.
* `disasm` reads and loads the image and prints its listing.
* `completion` prints a completion script.

A failure ends the program with status `1` and one error line naming what failed, then each
cause (`could not load program image x: could not read program image: Is a directory`). A
refused command line ends it with status `2`; help and version requests with status `0`.
-/

namespace WordMachine.Cli

open Log

/-- How the program ends. -/
structure Exit where
  status : Nat
  /-- What it wrote on its output stream. -/
  stdout : String
  /-- What it wrote on its error stream. -/
  stderr : String
  deriving DecidableEq, Repr

/-- The end of a command line that is refused or asks for a page. -/
def Halt.exit : Halt → Exit
  | .help page => { status := 0, stdout := page, stderr := "" }
  | .version text => { status := 0, stdout := text, stderr := "" }
  | .helpAsError page => { status := 2, stdout := "", stderr := page }
  | .refuse r => { status := 2, stdout := "", stderr := r.render }

/-- An error and its causes, outermost first, as one line. -/
def chain (context : String) (causes : List String) : String := ": ".intercalate (context :: causes)

/-- The program's target in log records. -/
def programTarget : String := "synacor"

/-- A record of the program's commands. -/
def note (command : String) (level : Diagnostic.Level) (message : String) (fields : List Field := []) :
    Record :=
  { level := level, target := "synacor::commands::" ++ command, message := message, fields := fields }

/-- The end of a task that failed: the error line, status `1`. -/
def failed (lg : Logger) (stdout : String) (message : String) : Exit :=
  let lg := lg.log [] { level := .error, target := programTarget, message := message }
  { status := 1, stdout := stdout, stderr := lg.text }

/-- The end of a task that succeeded. -/
def succeeded (lg : Logger) (stdout : String) : Exit := { status := 0, stdout := stdout, stderr := lg.text }

/-- Reads and loads an image, logging as it goes; the memory, or the exit of the failure. -/
def loadImage {m : Type → Type} [Monad m] (fs : FileAccess m) (command : String) (lg : Logger)
    (path : String) (options : LoadOptions) : m (Except Exit (Memory × Logger)) := do
  let lg := lg.log [] (note command .info "Reading program" [⟨"path", .shown path⟩])
  match ← fs.read path with
  | .error e => return .error (failed lg "" (chain ("could not open program image " ++ path) [e.message]))
  | .ok read =>
    let (loaded, events) := Image.load read options
    let lg := lg.logAll [loadSpan options] (events.map Diagnostic.Event.record)
    match loaded with
    | .error e =>
      return .error (failed lg "" (chain ("could not load program image " ++ path) (e.message :: e.causes)))
    | .ok memory => return .ok (memory, lg)

/-- The most steps a run takes; programs run this way are expected to stop well before. -/
def stepBound : Nat := Nat.pow 2 63

/-- The size of the buffer in front of a trace file. -/
def traceBufferSize : Nat := 8192

/-- The trace sink for where a trace goes. -/
def TraceTarget.sink : TraceTarget → TraceSink
  | .full => TraceSink.text (.bufferedFull traceBufferSize .noSpace)
  | .standardOutput | .standardError => TraceSink.text (.buffered traceBufferSize)
  | _ => TraceSink.text .reliable

/-- The output stream shared by the console and a trace: between the moments the trace's
buffer was sent on, what the console had sent on by then, then the trace's new part; at the
end, the rest of the console's output (flushed when the run stops) and then the rest of the
trace (flushed after). The trace is ASCII text, so its bytes are its characters. -/
def sharedOutput (console : List UInt8) (trace : String) (flushes : List TraceFlush) : List UInt8 :=
  let traceBytes := trace.toUTF8.toList
  let (c, t, acc) := flushes.foldl (fun (c, t, acc) f =>
    (f.console, f.trace, acc ++ (console.drop c).take (f.console - c) ++ (traceBytes.drop t).take (f.trace - t)))
    (0, 0, [])
  acc ++ console.drop c ++ traceBytes.drop t

/-- The log of a run whose trace goes to the error stream: the records of the run, with each
part of the trace sent on placed after the records made before it was sent, then the rest of
the trace. -/
def sharedLog (lg : Logger) (records : List Record) (trace : String) (flushes : List TraceFlush) :
    Logger :=
  let traceChars := trace.toList
  let (e, t, lg) := flushes.foldl (fun (e, t, lg) f =>
    (f.events, f.trace,
      (lg.logAll [runSpan] ((records.drop e).take (f.events - e))).write
        (String.ofList ((traceChars.drop t).take (f.trace - t)))))
    (0, 0, lg)
  (lg.logAll [runSpan] (records.drop e)).write (String.ofList (traceChars.drop t))

/-- The `run` command. -/
def runProgram {m : Type → Type} [Monad m] (fs : FileAccess m) (lg : Logger)
    (path : String) (trace : Option String) (pad : Bool) : m Exit := do
  match ← loadImage fs "run" lg path { padToAddressSpace := pad } with
  | .error exit => return exit
  | .ok (memory, lg) =>
    let input ← fs.input
    let lg := lg.log [] (note "run" .info "Running program")
    let prepared : Except Exit (TraceSink × Option (String × TraceTarget) × Logger) ←
      match trace with
        | none => pure (.ok (TraceSink.off, none, lg))
        | some tp => do
          let lg := lg.log [] (note "run" .debug "Tracing execution" [⟨"path", .shown tp⟩])
          match ← fs.create tp with
          | .error e =>
            pure (.error (failed lg "" (chain ("could not create trace file " ++ tp) [e.message])))
          | .ok target => pure (.ok (target.sink, some (tp, target), lg))
    match prepared with
    | .error exit => return exit
    | .ok (sink, traceFile, lg) =>
      let machine : Machine :=
        { computer := Computer.ofMemory memory, console := Console.ofInput input, sink := sink }
      match Machine.runFor stepBound machine with
      | .unfinished m' => return failed lg m'.console.outputText "program did not stop"
      | .finished result m' =>
        let records := m'.events.toList.map Diagnostic.Event.record
        let trace := m'.sink.contents
        let flushes := m'.flushes.toList
        let lg := match traceFile with
          | some (_, .standardError) => sharedLog lg records trace flushes
          | _ => lg.logAll [runSpan] records
        let stdout := match traceFile with
          | some (_, .standardOutput) =>
            String.ofList ((Text.Utf8.decode? (sharedOutput m'.console.written.toList trace flushes)).getD [])
          | _ => m'.console.outputText
        let lg ← match traceFile with
          | none => pure lg
          | some (tp, target) => do
            let written : Except IoError Unit ← match m'.sink.finish, target with
              | some e, _ => pure (.error e)
              | none, .standardOutput | none, .standardError => pure (.ok ())
              | none, _ => fs.write target trace
            match written with
            | .error e =>
              pure (lg.log [] (note "run" .warn "Could not write trace file"
                [⟨"path", .shown tp⟩, ⟨"error", .shown e.message⟩]))
            | .ok () => pure lg
        let c := m'.computer
        match result with
        | .error f =>
          return failed lg stdout (chain ("program crashed on the instruction at address " ++
            toString c.pc.toNat ++ " after " ++ toString c.cycles ++ " instructions") (f.message :: f.causes))
        | .ok t =>
          let lg := lg.log [] (note "run" .info "End of program"
            [⟨"termination", .shown t.render⟩, ⟨"cycles", .number c.cycles⟩,
             ⟨"registers", .shown c.registers.render⟩])
          return succeeded lg stdout

/-- The `disasm` command. -/
def listProgram {m : Type → Type} [Monad m] (fs : FileAccess m) (lg : Logger) (path : String)
    (start : Address) (count : Option Nat) : m Exit := do
  match ← loadImage fs "disasm" lg path {} with
  | .error exit => return exit
  | .ok (memory, lg) =>
    let entries := Listing.disassemble memory start
    let entries := match count with
      | some n => entries.take n
      | none => entries
    return succeeded lg (String.join (entries.map fun e => e.render ++ "\n"))

/-- The style of the log lines asked for. -/
def LogChoice.style (c : LogChoice) : Style :=
  if c.json then .json else if c.color then .colored else .plain

/-- The whole program: its command line and the `RUST_LOG` setting, with its files and input
reached through `fs`. -/
def Program.main {m : Type → Type} [Monad m] (fs : FileAccess m)
    (args : List String) (environment : Option String) : m Exit :=
  match Invocation.ofArgs args with
  | .error h => return h.exit
  | .ok inv =>
    let lg : Logger := { filter := Filter.choose environment inv.logs.verbosity, style := inv.logs.style }
    match inv.task with
    | .run path trace pad => runProgram fs lg path trace pad
    | .disasm path start count => listProgram fs lg path start count
    | .completion shell => return succeeded lg (Completion.script shell)

end WordMachine.Cli
