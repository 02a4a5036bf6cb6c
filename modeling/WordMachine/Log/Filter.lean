import WordMachine.Log.Record
import WordMachine.Text.Regex.Syntax
import WordMachine.Text.Blank
import WordMachine.Text.Utf8
import WordMachine.Text.Alphanumeric

/-!
# Log filters

A filter is a list of directives separated by commas; empty items are skipped. A directive is
read one character at a time, over its text with the blanks at both ends removed:

* it starts with `[`, or with a letter, a digit, `-`, `:` or `_` of any script;
* a text up to `=` or `[` is a target, and the text after `=` a level;
* a bare text is a level when it reads as one (`info`, `off`, `0` to `5`, with any case, a `+`
  or leading zeros), and a target otherwise;
* `[name]` selects the spans of that name, `[name{field}]` or `[{field=value}]` the spans with
  those fields; a value is a pattern, unless it reads as a boolean or a number;
* after `]` only `=level` may follow, and a directive without a level lets everything through.

The parts a directive names are cut out of its text as given, at the byte offsets they have in
the trimmed text. Blanks at the start thus shift every part to the left, and a bare level or the
level after `=` runs to the end of the text as given, blanks at the end included: ` a=debug`
names the target ` ` and the level `=debug`, which is none, and `info ` is a target. A part that
would cut a character in two makes the directive malformed.

Targets may hold any character; a span selector that is not closed, an empty field, a level
that is not one, or a value that is no pattern make the whole list no filter at all
(`Filter.parse?` answers `none`). The empty text is the filter that lets nothing through.

A field value that is a pattern is searched for in the shown value as an automaton searches
(`Regex.accepts`): it must stand in a matching state at the end of the value.

A directive that names no span and no field value is *static*: it decides by target and field
names alone, the most specific one that cares deciding (longest target first, then most field
names). A directive that names a span or a field is *dynamic*: the spans it selects are shown,
and they set the level for what is made inside them. A directive with field names and no span
is both.
-/

namespace WordMachine.Log

open Diagnostic
open WordMachine.Text

/-- The rank of a threshold: `0` lets nothing through, `5` everything. -/
abbrev Threshold := Nat

/-- Whether a threshold lets a level through. -/
def admits (t : Threshold) (l : Level) : Bool := l.rank ≤ t

/-- The threshold a level text stands for: a number `0` to `5`, with an optional `+` and
leading zeros, or a level name in any case; the empty text is `off`. -/
def thresholdOf? (s : String) : Option Threshold :=
  let digits := match s.toList with
    | '+' :: ds => ds
    | ds => ds
  if !digits.isEmpty && digits.all Char.isDigit then
    let n := digits.foldl (fun n d => 10 * n + (d.toNat - 48)) 0
    if n ≤ 5 then some n else none
  else
    match s.toLower with
    | "" | "off" => some 0
    | "error" => some 1
    | "warn" => some 2
    | "info" => some 3
    | "debug" => some 4
    | "trace" => some 5
    | _ => none

/-- Whether a text is digits, at least one. -/
def isDigits (cs : List Char) : Bool := !cs.isEmpty && cs.all Char.isDigit

/-- Whether a text reads as a floating-point number, as the standard library reads one: an
optional sign, then `inf`, `infinity` or `nan` in any case, or digits with at most one point
and at least one digit, and an optional exponent. Every integer reads so too. -/
def isNumberText (s : String) : Bool :=
  let cs := match s.toList with
    | '+' :: r | '-' :: r => r
    | r => r
  let lower := String.ofList (cs.map Char.toLower)
  if lower == "inf" || lower == "infinity" || lower == "nan" then true
  else
    let (whole, rest) := cs.span Char.isDigit
    let (fraction, rest) := match rest with
      | '.' :: more => more.span Char.isDigit
      | more => ([], more)
    let exponentOk := match rest with
      | [] => true
      | e :: more =>
        (e == 'e' || e == 'E') && isDigits (match more with
          | '+' :: ds | '-' :: ds => ds
          | ds => ds)
    (!whole.isEmpty || !fraction.isEmpty) && exponentOk

/-- What a field selector asks of the value of a field. -/
inductive ValueMatch where
  /-- A boolean or a number, written as given; it equals a numeric value of the same number
  and never a shown one. -/
  | scalar (text : String)
  /-- A pattern that a search of the shown value must end in a match with. -/
  | pattern (source : String) (re : Regex)
  deriving DecidableEq, Repr

namespace ValueMatch

/-- Reads a value: a boolean or a number, else a regular expression. -/
def parse? (s : String) : Option ValueMatch :=
  if s == "true" || s == "false" || isNumberText s then some (.scalar s)
  else (Regex.parse? s).map (.pattern s)

/-- Whether a field's value satisfies the selector. -/
def accepts : ValueMatch → Value → Bool
  | .scalar t, .number n => isDigits t.toList && t.toNat? == some n
  | .scalar _, _ => false
  | .pattern _ re, .text s | .pattern _ re, .shown s => re.accepts s
  | .pattern _ _, .number _ => false

/-- The order of values among selectors: scalars first, then patterns, each by its text. -/
def order : ValueMatch → ValueMatch → Ordering
  | .scalar a, .scalar b => compare a b
  | .scalar _, .pattern _ _ => .lt
  | .pattern _ _, .scalar _ => .gt
  | .pattern a _, .pattern b _ => compare a b

end ValueMatch

/-- A field selector: a field name and perhaps what its value must be. -/
structure FieldMatch where
  name : String
  value : Option ValueMatch := none
  deriving DecidableEq, Repr

/-- Reads `name` or `name=value`; text after a second `=` is ignored. -/
def FieldMatch.parse? (s : String) : Option FieldMatch :=
  match s.splitOn "=" with
  | name :: value :: _ => (ValueMatch.parse? value).map fun v => ⟨name, some v⟩
  | _ => some ⟨s, none⟩

/-- One directive of a filter. -/
structure Directive where
  target : Option String := none
  /-- The span name selected, if any. -/
  span : Option String := none
  /-- The field selectors. -/
  fields : List FieldMatch := []
  threshold : Threshold
  deriving DecidableEq, Repr

namespace Directive

/-- Where the reading of a directive stands; a part being read is held by the byte offset
where it starts. -/
inductive Reading where
  /-- Nothing read yet. -/
  | start
  /-- A text that will be a level or a target. -/
  | levelOrTarget (start : Nat)
  /-- Inside a span selector, its name. -/
  | span (start : Nat)
  /-- Inside the braces of a span selector, the current field. -/
  | field (start : Nat)
  /-- After the closing brace, before the `]`. -/
  | fields
  /-- After the span selector, where only `=` may follow. -/
  | afterSpan
  /-- The level. -/
  | level (start : Nat)

/-- The parts of a directive read so far. -/
structure Parts where
  target : Option String := none
  span : Option String := none
  fields : List FieldMatch := []

/-- The bytes from offset `a` up to offset `b` of a text, as a text; `none` when an end falls
inside a character. -/
def cut (bytes : List UInt8) (a b : Nat) : Option String :=
  (Utf8.decode? ((bytes.take b).drop a)).map String.ofList

/-- The characters of a text, each with its byte offset, the first at `start`. -/
def withOffsets : Nat → List Char → List (Nat × Char)
  | _, [] => []
  | start, c :: cs => (start, c) :: withOffsets (start + (Utf8.encodeChar c).length) cs

/-- Whether a directive may start with a character: a letter or a digit of any script, `-`, `:`
or `_`. -/
def isLeading (c : Char) : Bool := isAlphanumeric c || c = '-' || c = ':' || c = '_'

/-- Reads one more character, at offset `i`; the parts are cut out of `text`. -/
def step (text : List UInt8) : Reading × Parts → Nat × Char → Option (Reading × Parts)
  | (.start, d), (i, c) =>
    if c = '[' then some (.span (i + 1), d)
    else if isLeading c then some (.levelOrTarget i, d)
    else none
  | (.levelOrTarget a, d), (i, c) =>
    if c = '=' then (cut text a i).map fun t => (.level (i + 1), { d with target := some t })
    else if c = '[' then (cut text a i).map fun t => (.span (i + 1), { d with target := some t })
    else some (.levelOrTarget a, d)
  | (.span a, d), (i, c) =>
    if c = ']' then (cut text a i).map fun t => (.afterSpan, { d with span := some t })
    else if c = '{' then
      (cut text a i).map fun t => (.field (i + 1), { d with span := if t.isEmpty then none else some t })
    else some (.span a, d)
  | (.field a, d), (i, c) =>
    if c = '}' || c = ',' then
      (cut text a i).bind fun t =>
        if t.isEmpty then none
        else (FieldMatch.parse? t).map fun m =>
          (if c = '}' then .fields else .field (i + 1), { d with fields := d.fields ++ [m] })
    else some (.field a, d)
  | (.fields, d), (_, c) => if c = ']' then some (.afterSpan, d) else none
  | (.afterSpan, d), (i, c) => if c = '=' then some (.level (i + 1), d) else none
  | (.level a, d), _ => some (.level a, d)

/-- The directive read, once the trimmed text is over; a bare level or a level after `=` runs
to the end of `text`. -/
def finish (text : List UInt8) : Reading × Parts → Option Directive
  | (.levelOrTarget a, _) =>
    (cut text a text.length).map fun t =>
      match thresholdOf? t with
      | some l => { threshold := l }
      | none => { target := some t, threshold := 5 }
  | (.level a, d) =>
    (cut text a text.length).bind fun t =>
      let level := if t.isEmpty then some 5 else thresholdOf? t
      level.map fun l => { target := d.target, span := d.span, fields := d.fields, threshold := l }
  | (.afterSpan, d) => some { target := d.target, span := d.span, fields := d.fields, threshold := 5 }
  | _ => none

/-- Reads one directive, a text without commas. -/
def parse? (s : String) : Option Directive :=
  let text := Utf8.encode s.toList
  ((withOffsets 0 (trim s.toList)).foldl (fun st p => st.bind (step text · p))
    (some (.start, {}))).bind (finish text)

/-- A directive is dynamic when it selects a span or names a field. -/
def isDynamic (d : Directive) : Bool := d.span.isSome || !d.fields.isEmpty

/-- A directive is static when it selects no span and no field value. -/
def isStatic (d : Directive) : Bool := d.span.isNone && d.fields.all (·.value.isNone)

/-- Whether a target falls under the directive. -/
def coversTarget (d : Directive) (target : String) : Bool :=
  match d.target with
  | some t => target.startsWith t
  | none => true

/-- Whether a directive selects a span: its target, its name, and every field it names. -/
def selects (d : Directive) (s : Span) : Bool :=
  d.coversTarget s.target && d.span.all (· == s.name) &&
    d.fields.all fun m => s.fields.any (·.name == m.name)

/-- Whether a span's field values satisfy the directive's value selectors. -/
def valuesMatch (d : Directive) (s : Span) : Bool :=
  d.fields.all fun m => match m.value with
    | none => true
    | some v => s.fields.any fun f => f.name == m.name && v.accepts f.value

end Directive

/-! ## Order of directives -/

/-- Compares optional texts, an absent one first. -/
def compareOptional : Option String → Option String → Ordering
  | none, none => .eq
  | none, some _ => .lt
  | some _, none => .gt
  | some a, some b => compare a b

/-- Compares lists element by element, a shorter prefix first. -/
def compareLists {α : Type} (cmp : α → α → Ordering) : List α → List α → Ordering
  | [], [] => .eq
  | [], _ :: _ => .lt
  | _ :: _, [] => .gt
  | a :: as, b :: bs => (cmp a b).then (compareLists cmp as bs)

/-- How long a target is in bytes, no target counting less than the empty one. -/
def targetRank (t : Option String) : Nat :=
  match t with
  | some s => s.utf8ByteSize + 1
  | none => 0

/-- Compares field selectors: those without a value first, then by name and value. -/
def FieldMatch.order (a b : FieldMatch) : Ordering :=
  (compare a.value.isSome b.value.isSome).then <| (compare a.name b.name).then <|
    match a.value, b.value with
    | some x, some y => x.order y
    | _, _ => .eq

/-- A directive that decides by target and field names. -/
structure StaticDirective where
  target : Option String
  fieldNames : List String
  threshold : Threshold
  deriving DecidableEq, Repr

/-- The static part of a directive. -/
def Directive.toStatic (d : Directive) : StaticDirective :=
  ⟨d.target, d.fields.map (·.name), d.threshold⟩

/-- How specific a static directive is, compared: longer targets, then more field names, then
the texts themselves. -/
def StaticDirective.specificity (a b : StaticDirective) : Ordering :=
  (compare (targetRank a.target) (targetRank b.target)).then <|
    (compare a.fieldNames.length b.fieldNames.length).then <|
      (compareOptional a.target b.target).then (compareLists compare a.fieldNames b.fieldNames)

/-- How specific a dynamic directive is, compared: longer targets, then a span name, then more
fields, then the texts themselves. -/
def Directive.specificity (a b : Directive) : Ordering :=
  (compare (targetRank a.target) (targetRank b.target)).then <|
    (compare a.span.isSome b.span.isSome).then <|
      (compare a.fields.length b.fields.length).then <|
        (compareOptional a.target b.target).then <|
          (compareOptional a.span b.span).then (compareLists FieldMatch.order a.fields b.fields)

/-- Inserts into a list kept most specific first; an equally specific element is replaced. -/
def insertBySpecificity {α : Type} (specificity : α → α → Ordering) (x : α) : List α → List α
  | [] => [x]
  | y :: ys =>
    match specificity x y with
    | .gt => x :: y :: ys
    | .eq => x :: ys
    | .lt => y :: insertBySpecificity specificity x ys

/-! ## Filters -/

/-- A log filter. -/
structure Filter where
  /-- The directives that decide by target and field names, most specific first. -/
  statics : List StaticDirective
  /-- The directives that select spans, most specific first. -/
  dynamics : List Directive
  /-- The most detailed threshold of a static directive ever added. -/
  staticCeiling : Threshold
  /-- The most detailed threshold of a dynamic directive ever added. -/
  dynamicCeiling : Threshold
  deriving DecidableEq, Repr

namespace Filter

/-- The filter of a list of directives. -/
def ofDirectives (ds : List Directive) : Filter :=
  let dyn := ds.filter Directive.isDynamic
  let stat := (ds.filter fun d => !d.isDynamic) ++ dyn.filter Directive.isStatic
  { statics := stat.foldl (fun acc d => insertBySpecificity StaticDirective.specificity d.toStatic acc) [],
    dynamics := dyn.foldl (fun acc d => insertBySpecificity Directive.specificity d acc) [],
    staticCeiling := stat.foldl (fun t d => max t d.threshold) 0,
    dynamicCeiling := dyn.foldl (fun t d => max t d.threshold) 0 }

/-- The items of a list, empty ones left out. -/
def items (s : String) : List String := (s.splitOn ",").filter (· != "")

/-- Reads a filter; `none` when a directive is malformed. -/
def parse? (s : String) : Option Filter :=
  ((items s).mapM Directive.parse?).map ofDirectives

/-- Reads a filter, leaving out malformed directives. -/
def parseLossy (s : String) : Filter := ofDirectives ((items s).filterMap Directive.parse?)

/-- The most detailed level anything can pass at: everything when a value is selected, since
values are only known once recorded. -/
def ceiling (f : Filter) : Threshold :=
  if f.dynamics.any (·.fields.any (·.value.isSome)) then 5 else max f.staticCeiling f.dynamicCeiling

/-- What the static directives say about a level at a target, given the record's field names
(`none` for a span, which every static directive cares about whatever its fields). -/
def staticAdmits (f : Filter) (target : String) (level : Level) (fields : Option (List String)) :
    Bool :=
  let cares (d : StaticDirective) : Bool :=
    (match d.target with
      | some t => target.startsWith t
      | none => true) &&
    match fields with
    | some names => d.fieldNames.all names.contains
    | none => true
  admits f.staticCeiling level &&
    match f.statics.find? cares with
    | some d => admits d.threshold level
    | none => false

/-- The threshold a span sets for what is inside it, when dynamic directives select it: the
most detailed among those whose values it satisfies, else `off`. -/
def spanThreshold (f : Filter) (s : Span) : Option Threshold :=
  let chosen := f.dynamics.filter (·.selects s)
  if chosen.isEmpty then none
  else some (chosen.foldl (fun t d => if d.valuesMatch s then max t d.threshold else t) 0)

/-- Whether the thresholds of the spans entered admit a level. -/
def scopeAdmits (f : Filter) (scope : List Threshold) (level : Level) : Bool :=
  !f.dynamics.isEmpty && admits f.dynamicCeiling level && scope.any (admits · level)

/-- Whether a span is shown, inside spans that set the given thresholds. A span that a
dynamic directive selects is always shown, whatever the directive's level, since the levels it
sets for what is inside it are known only through it; the ceiling still applies. -/
def showsSpan (f : Filter) (s : Span) (scope : List Threshold) : Bool :=
  admits f.ceiling s.level &&
    ((f.spanThreshold s).isSome || f.scopeAdmits scope s.level ||
      f.staticAdmits s.target s.level none)

/-- Whether a record is shown, inside spans that set the given thresholds. -/
def showsRecord (f : Filter) (r : Record) (scope : List Threshold) : Bool :=
  admits f.ceiling r.level &&
    (f.scopeAdmits scope r.level || f.staticAdmits r.target r.level (some r.fieldNames))

/-- The filter for a number of `-v` switches. -/
def ofVerbosity (n : Nat) : Filter :=
  parseLossy (match n with
    | 0 => "warn"
    | 1 => "synacor_emulator=info,synacor=info,warn"
    | 2 => "synacor_emulator=debug,synacor=debug,info"
    | 3 => "synacor_emulator=trace,synacor=trace,debug"
    | _ => "trace")

/-- The filter in force: the one of the environment when it reads, else the one of `-v`. -/
def choose (environment : Option String) (verbosity : Nat) : Filter :=
  match environment.bind parse? with
  | some f => f
  | none => ofVerbosity verbosity

end Filter

end WordMachine.Log
