import WordMachine.Diagnostic.Event
import WordMachine.Trace
import WordMachine.Image

/-!
# Log records

A log record is one line of the diagnostic log before it is formatted: a level, the target
that names where it comes from (a module path such as `synacor_emulator::loader`), a message
and named fields. A span is a named stretch of work (loading an image, running a program);
the records made inside it are attributed to it.

`Diagnostic.Event.record` gives the record of each event the machine reports.
-/

namespace WordMachine.Log

open Diagnostic

/-- A field's value, and how it was recorded. -/
inductive Value where
  /-- A text recorded as such; plain lines show it quoted. -/
  | text (s : String)
  /-- A value recorded by its display form; shown as it is. -/
  | shown (s : String)
  /-- A number. -/
  | number (n : Nat)
  deriving DecidableEq, Repr

/-- A named value of a record or span. -/
structure Field where
  name : String
  value : Value
  deriving DecidableEq, Repr

/-- A named stretch of work. -/
structure Span where
  name : String
  target : String
  level : Level := .info
  fields : List Field := []
  deriving DecidableEq, Repr

/-- A log line before formatting. -/
structure Record where
  level : Level
  target : String
  message : String
  fields : List Field := []
  deriving DecidableEq, Repr

/-- The names of a record's fields, the message first. -/
def Record.fieldNames (r : Record) : List String := "message" :: r.fields.map (·.name)

end WordMachine.Log

namespace WordMachine.Diagnostic

open Log

/-- The target of the machine's components. -/
def Component.target : Component → String
  | .loader => "synacor_emulator::loader"
  | .processor => "synacor_emulator::runtime"
  | .instructions => "synacor_emulator::runtime::instructions"
  | .console => "synacor_emulator::runtime::console"

/-- The message and fields of an event. -/
def Event.content : Event → String × List Field
  | .imageRead bytes => ("Read program image", [⟨"bytes", .number bytes⟩])
  | .imageLoaded words memory =>
    ("Program loaded", [⟨"words", .number words⟩, ⟨"memory", .number memory⟩])
  | .executing address i =>
    ("Executing instruction \"" ++ i.render ++ "\"", [⟨"address", .number address.toNat⟩])
  | .jumping target => ("Jumping to address " ++ toString target.toNat, [])
  | .pushed v => ("push(" ++ toString v.toNat ++ ")", [])
  | .popped v => ("pop => " ++ toString v.toNat, [])
  | .summed a b r => (toString a.toNat ++ " + " ++ toString b.toNat ++ " = " ++ toString r.toNat, [])
  | .multiplied a b r =>
    (toString a.toNat ++ " * " ++ toString b.toNat ++ " = " ++ toString r.toNat, [])
  | .divided a b r => (toString a.toNat ++ " % " ++ toString b.toNat ++ " = " ++ toString r.toNat, [])
  | .returning target => ("Returning to " ++ toString target.toNat, [])
  | .lineRead line => ("Read input line", [⟨"line", .text line⟩])
  | .traceDisabled e => ("Could not write trace, disabling it", [⟨"error", .shown e.message⟩])
  | .stopped t cycles =>
    ("Program stopped", [⟨"termination", .shown t.render⟩, ⟨"cycles", .number cycles⟩])

/-- The record of an event. -/
def Event.record (e : Event) : Record :=
  { level := e.level, target := e.component.target, message := e.content.1, fields := e.content.2 }

end WordMachine.Diagnostic

namespace WordMachine.Log

open Diagnostic

/-- The span around loading an image. -/
def loadSpan (options : LoadOptions) : Span :=
  { name := "load", target := Component.loader.target,
    fields := [⟨"options", .shown options.render⟩] }

/-- The span around running a program. -/
def runSpan : Span := { name := "run", target := Component.processor.target }

end WordMachine.Log
