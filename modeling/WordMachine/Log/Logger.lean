import WordMachine.Log.Filter
import WordMachine.Log.Format

/-!
# Loggers

A logger holds the filter in force, the style of its lines and the text written so far. A
record made inside spans is written with the spans the filter shows; a span that the filter
does not show is left out, and the records inside it are judged without it.
-/

namespace WordMachine.Log

/-- A log being written. -/
structure Logger where
  filter : Filter
  style : Style
  /-- The lines written so far, each with its line feed. -/
  text : String := ""
  deriving Repr

namespace Logger

/-- The spans of a stack (outermost first) that the filter shows, with the thresholds the shown
spans set for what is inside them. -/
def visible (f : Filter) : List Span → List Threshold → List Span × List Threshold
  | [], scope => ([], scope)
  | s :: ss, scope =>
    if f.showsSpan s scope then
      let scope := scope ++ (f.spanThreshold s).toList
      let (rest, scope) := visible f ss scope
      (s :: rest, scope)
    else visible f ss scope

/-- Writes a record made inside the given spans, if the filter shows it. -/
def log (lg : Logger) (spans : List Span) (r : Record) : Logger :=
  let (shown, scope) := visible lg.filter spans []
  if lg.filter.showsRecord r scope then { lg with text := lg.text ++ render lg.style shown r }
  else lg

/-- Writes text that is not a record, such as a trace sent to the same stream. -/
def write (lg : Logger) (s : String) : Logger := { lg with text := lg.text ++ s }

/-- Writes records made inside the given spans, in order. -/
def logAll (lg : Logger) (spans : List Span) (rs : List Record) : Logger :=
  rs.foldl (fun lg r => lg.log spans r) lg

end Logger

end WordMachine.Log
