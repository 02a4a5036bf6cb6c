import WordMachine.Log.Record
import WordMachine.Text.Escape

/-!
# Log line formats

A record is written on one line in one of three forms.

* Plain: the level right-aligned in five columns, the spans it is in (`load{options=...}: `),
  the message with its terminal controls escaped, then each field as `name=value`. A text field is quoted; numbers and displayed
  values stand as they are.
* Colored: the plain form with terminal escapes: the level in its color, span names and braces
  bold, field names italic, the `=` and `:` separators dimmed.
* JSON: an object with the level, the fields (message first), the target, and, inside spans,
  the innermost span and the list of all of them, each with its fields and its name.
-/

namespace WordMachine.Log

open Diagnostic

/-- The five-column text of a level. -/
def levelText : Level → String
  | .error => "ERROR"
  | .warn => " WARN"
  | .info => " INFO"
  | .debug => "DEBUG"
  | .trace => "TRACE"

/-- The name of a level in JSON. -/
def levelName : Level → String
  | .error => "ERROR"
  | .warn => "WARN"
  | .info => "INFO"
  | .debug => "DEBUG"
  | .trace => "TRACE"

/-- The terminal color code of a level. -/
def levelColor : Level → String
  | .error => "31"
  | .warn => "33"
  | .info => "32"
  | .debug => "34"
  | .trace => "35"

/-- A text in a terminal style, when styles are on. -/
def paint (styled : Bool) (code : String) (s : String) : String :=
  if styled then "\x1b[" ++ code ++ "m" ++ s ++ "\x1b[0m" else s

/-- How a value is written in a plain line. -/
def Value.plain : Value → String
  | .text s => Text.quoteString s
  | .shown s => s
  | .number n => toString n

/-- A field written `name=value`. -/
def Field.plain (styled : Bool) (f : Field) : String :=
  paint styled "3" f.name ++ paint styled "2" "=" ++ f.value.plain

/-- The fields of a span or record, separated by spaces. -/
def fieldsText (styled : Bool) (fs : List Field) : String :=
  " ".intercalate (fs.map (Field.plain styled))

/-- The prefix that names the spans a record is in. -/
def spansText (styled : Bool) (spans : List Span) : String :=
  let one (s : Span) : String :=
    paint styled "1" s.name ++
      (if s.fields.isEmpty then ""
       else paint styled "1" "\x7b" ++ fieldsText styled s.fields ++ paint styled "1" "\x7d") ++
      paint styled "2" ":"
  if spans.isEmpty then "" else String.join (spans.map one) ++ " "

/-- A record as a plain or colored line, without its line feed. -/
def plainLine (styled : Bool) (spans : List Span) (r : Record) : String :=
  paint styled (levelColor r.level) (levelText r.level) ++ " " ++ spansText styled spans ++
    Text.terminalSafe r.message ++ String.join (r.fields.map fun f => " " ++ f.plain styled)

/-- The four hexadecimal digits of a code below `0x10000`, lowercase. -/
def hex4 (n : Nat) : String :=
  let ds := Nat.toDigits 16 n
  String.ofList (List.replicate (4 - ds.length) '0' ++ ds)

/-- A character inside a JSON string. -/
def jsonChar (c : Char) : String :=
  if c = '"' then "\\\""
  else if c = '\\' then "\\\\"
  else if c = '\n' then "\\n"
  else if c = '\r' then "\\r"
  else if c = '\t' then "\\t"
  else if c = '\x08' then "\\b"
  else if c = '\x0c' then "\\f"
  else if c.toNat < 0x20 then "\\u" ++ hex4 c.toNat
  else c.toString

/-- A JSON string. -/
def jsonString (s : String) : String := "\"" ++ String.join (s.toList.map jsonChar) ++ "\""

/-- A value in JSON. -/
def Value.json : Value → String
  | .text s => jsonString s
  | .shown s => jsonString s
  | .number n => toString n

/-- JSON members `"name":value`, separated by commas. -/
def members (fs : List (String × String)) : String :=
  ",".intercalate (fs.map fun (k, v) => jsonString k ++ ":" ++ v)

/-- A span as a JSON object: its fields, then its name. -/
def Span.json (s : Span) : String :=
  "\x7b" ++ members (s.fields.map (fun f => (f.name, f.value.json)) ++ [("name", jsonString s.name)]) ++ "\x7d"

/-- A record as a JSON line, without its line feed. -/
def jsonLine (spans : List Span) (r : Record) : String :=
  let fields := "\x7b" ++ members (("message", jsonString r.message) ::
    r.fields.map fun f => (f.name, f.value.json)) ++ "\x7d"
  let base := [("level", jsonString (levelName r.level)), ("fields", fields),
    ("target", jsonString r.target)]
  let context := match spans.getLast? with
    | some inner =>
      [("span", inner.json), ("spans", "[" ++ ",".intercalate (spans.map Span.json) ++ "]")]
    | none => []
  "\x7b" ++ members (base ++ context) ++ "\x7d"

/-- The forms of log lines. -/
inductive Style where
  | plain
  | colored
  | json
  deriving DecidableEq, Repr

/-- A record as a line in a style, with its line feed. -/
def render (style : Style) (spans : List Span) (r : Record) : String :=
  (match style with
    | .plain => plainLine false spans r
    | .colored => plainLine true spans r
    | .json => jsonLine spans r) ++ "\n"

end WordMachine.Log
