import WordMachine.Text.Regex
import WordMachine.Text.Alphanumeric
import WordMachine.Text.Blank

/-!
# Reading regular expressions

`Regex.parse?` reads the usual syntax of patterns: literals and `.`; classes `[...]` with
ranges, negation, nested classes, the set operations `&&`, `--` and `~~` and the classes
`[:alpha:]`; the escapes `\d \w \s` and their negations, Unicode classes `\pL` and
`\p{Greek}`, code points `\x7F`, `\u{...}` and `\U...`, and escaped punctuation; groups,
non-capturing groups and named groups, each name used once; the flags `i m s x U u R`, for the
rest of a group or inside one; alternation; the repetitions `*`, `+`, `?`, `{n}`, `{n,}` and
`{n,m}`, greedy or lazy; the anchors `^`, `$`, `\A` and `\z`; and the word boundaries `\b`,
`\B`, `\<`, `\>` and `\b{start}`, `\b{end}`, `\b{start-half}`, `\b{end-half}`.

Some rules of the syntax that are easy to miss:

* with the flag `x`, blanks (every Unicode `White_Space` character) and `#` comments are
  skipped between the parts of a pattern, and also inside escapes such as `\x 7 D` or `\p L`,
  after a class's `[` and `^`, and between a `(` and what follows it; but not between a
  repetition and the `?` that makes it lazy, nor inside `(?flags)`;
* a class's leading `-` characters, any number of them, stand for themselves, and a `]` right
  after the `[` (and the `^`), when no `-` came before it, does too;
* under the flag `i` a character stands for every character that is the same but for case
  (`s`, `S` and `ſ`), a class is closed under case before it is negated, and each operand of
  a set operation is closed before the operation;
* a pattern nests at most 250 levels deep, counting groups, repetitions, classes, sequences of
  two parts or more, alternations, and inside classes unions of two items or more and set
  operations.

What an automaton over the bytes of a text cannot decide is refused along with what the syntax
refuses: a word boundary in Unicode mode (flag `u`, on by default), and, with the flag off, a
class that could match something beyond ASCII (`.`, `\W`, `\pL`, a negated class, a class with
a non-ASCII member), a code point `\xFF` beyond ASCII, and a non-ASCII character under `i`.
-/

namespace WordMachine.Text

namespace RegexSyntax

/-- The flags in force while reading. -/
structure Flags where
  /-- Letters match either case. -/
  caseless : Bool := false
  /-- `^` and `$` match at lines. -/
  multiLine : Bool := false
  /-- `.` matches a line feed too. -/
  dotAll : Bool := false
  /-- Blanks and `#` comments are ignored. -/
  verbose : Bool := false
  /-- Repetitions are lazy unless marked, and lazy when marked. -/
  swapGreed : Bool := false
  /-- Classes are classes of Unicode characters; off, of ASCII ones. -/
  unicode : Bool := true
  /-- Lines end at a carriage return too. -/
  crlf : Bool := false

/-- The set closed under case when the flags ask for it: by Unicode's simple case folding, or
by the ASCII letters' cases alone with Unicode off. -/
def Flags.fold (flags : Flags) (s : CharSet) : CharSet :=
  if !flags.caseless then s
  else if flags.unicode then CharSet.caseFolded s
  else CharSet.asciiCaseClosed s

/-- Whether a class may stand under the flags: with Unicode off, only an ASCII one. -/
def Flags.allows (flags : Flags) (s : CharSet) : Bool :=
  flags.unicode || CharSet.isAscii s

/-- The deepest a pattern may nest. -/
def nestLimit : Nat := 250

/-- Skips blanks and `#` comments, the latter up to the end of their line. -/
def skipBlanksFrom (inComment : Bool) : List Char → List Char
  | [] => []
  | c :: rest =>
    if inComment then skipBlanksFrom (c != '\n') rest
    else if isBlank c then skipBlanksFrom false rest
    else if c = '#' then skipBlanksFrom true rest
    else c :: rest

theorem length_skipBlanksFrom_le (inComment : Bool) (cs : List Char) :
    (skipBlanksFrom inComment cs).length ≤ cs.length := by
  induction cs generalizing inComment with
  | nil => simp [skipBlanksFrom]
  | cons c rest ih =>
    simp only [skipBlanksFrom]
    split
    · exact Nat.le_succ_of_le (ih _)
    · split
      · exact Nat.le_succ_of_le (ih _)
      · split
        · exact Nat.le_succ_of_le (ih _)
        · exact Nat.le_refl _

/-- Skips blanks and comments, when the flags ask for it. -/
def skipBlanks (verbose : Bool) (cs : List Char) : List Char :=
  if verbose then skipBlanksFrom false cs else cs

theorem length_skipBlanks_le (verbose : Bool) (cs : List Char) :
    (skipBlanks verbose cs).length ≤ cs.length := by
  unfold skipBlanks
  split
  · exact length_skipBlanksFrom_le false cs
  · exact Nat.le_refl _

/-- Reads the characters up to a closing brace, after the opening one; blanks and comments
are skipped when verbose. -/
def braced (verbose : Bool) (cs : List Char) : Option (List Char × List Char) :=
  match _split : skipBlanks verbose cs with
  | '}' :: rest => some ([], rest)
  | c :: rest => (braced verbose rest).map fun (inside, after) => (c :: inside, after)
  | [] => none
termination_by cs.length
decreasing_by
  have := length_skipBlanks_le verbose cs
  rw [_split] at this
  simp only [List.length_cons] at this
  omega

/-- The value of a hexadecimal digit. -/
def hexValue? (c : Char) : Option Nat :=
  if '0' ≤ c && c ≤ '9' then some (c.toNat - 48)
  else if 'a' ≤ c && c ≤ 'f' then some (c.toNat - 87)
  else if 'A' ≤ c && c ≤ 'F' then some (c.toNat - 55)
  else none

/-- The value of hexadecimal digits, if all are digits and there is one at least. -/
def hexNumber? (cs : List Char) : Option Nat :=
  if cs.isEmpty then none
  else cs.foldl (fun acc c => acc.bind fun n => (hexValue? c).map fun d => 16 * n + d) (some 0)

/-- A code point that is a character. -/
def scalar? (n : Nat) : Option Nat :=
  if n ≤ CharSet.maxCode && !(0xD800 ≤ n && n ≤ 0xDFFF) then some n else none

/-- Reads `n` hexadecimal digits; blanks and comments before each are skipped when verbose. -/
def hexDigits (verbose : Bool) : Nat → List Char → Option (List Char × List Char)
  | 0, cs => some ([], cs)
  | n + 1, cs =>
    match skipBlanks verbose cs with
    | c :: rest =>
      if (hexValue? c).isSome then (hexDigits verbose n rest).map fun (ds, more) => (c :: ds, more)
      else none
    | [] => none

/-- Reads a code point written in hexadecimal after `\x`, `\u` or `\U`: exactly `width`
digits, or any number of them between braces. Answers the code point, whether it was written
with exactly `width` digits, and the rest. -/
def hexEscape (verbose : Bool) (width : Nat) (cs : List Char) : Option (Nat × Bool × List Char) :=
  match skipBlanks verbose cs with
  | '{' :: rest =>
    (braced verbose rest).bind fun (ds, more) =>
      ((hexNumber? ds).bind scalar?).map fun n => (n, false, more)
  | cs =>
    (hexDigits verbose width cs).bind fun (ds, more) =>
      ((hexNumber? ds).bind scalar?).map fun n => (n, true, more)

/-- A name as the Unicode class table is keyed: lowercase, without spaces, dashes or
underscores. -/
def looseName (s : String) : String :=
  String.ofList ((s.toList.filter fun c => c != ' ' && c != '_' && c != '-').map Char.toLower)

/-- A Unicode class `\p{...}` by the text between the braces, which may be `name=value`,
`name:value` or `name!=value`; the latter stands for the characters outside the class. Answers
the class and whether it is to be negated. -/
def unicodeClass? (inside : String) : Option (CharSet × Bool) :=
  match inside.splitOn "!=" with
  | [_, v] => (CharSet.unicode? (looseName v)).map fun s => (s, true)
  | _ =>
    let value := match inside.splitOn ":" with
      | [_, v] => v
      | _ => match inside.splitOn "=" with
        | [_, v] => v
        | _ => inside
    (CharSet.unicode? (looseName value)).map fun s => (s, false)

/-- What an escape stands for. -/
inductive Escaped where
  /-- One character, which may bound a range. -/
  | literal (c : Nat)
  /-- A class of characters. -/
  | set (s : CharSet)
  /-- An assertion. -/
  | look (a : Look)

/-- Whether a character may be written escaped to stand for itself: ASCII punctuation, and
not `<` or `>`, which stand for word boundaries. -/
def escapable (c : Char) : Bool :=
  c.toNat < 128 && !c.isAlphanum && c != '<' && c != '>'

/-- The word characters, the digits and the blanks of `\w`, `\d` and `\s` under the flags. -/
def perlClass (unicode : Bool) : Char → Option CharSet
  | 'd' | 'D' => some CharSet.digits
  | 'w' | 'W' => some CharSet.wordChars
  | 's' | 'S' => some (if unicode then CharSet.spaces else CharSet.asciiSpaces)
  | _ => none

/-- Reads the name of a word boundary `\b{name}`, after its `{`; `none` inside when the braces
do not hold a name but a repetition count, which the caller then reads. -/
def boundaryName? (verbose : Bool) (cs : List Char) : Option (Option (Look × List Char)) :=
  let isNameChar := fun (c : Char) => c.isAlpha || c = '-'
  match skipBlanks verbose cs with
  | c :: _ =>
    if !isNameChar c then some none
    else
      let cs := skipBlanks verbose cs
      let (name, rest) := cs.span fun d => isNameChar d || (verbose && isBlank d)
      let name := String.ofList (name.filter isNameChar)
      match rest, name with
      | '}' :: after, "start" => some (some (.wordStart, after))
      | '}' :: after, "end" => some (some (.wordEnd, after))
      | '}' :: after, "start-half" => some (some (.wordStartHalf, after))
      | '}' :: after, "end-half" => some (some (.wordEndHalf, after))
      | _, _ => none
  | [] => none

/-- A word boundary, refused in Unicode mode. Outside it, `\B` is refused too: between the
bytes of one character neither side is a word character, so it would hold inside a character. -/
def wordLook (flags : Flags) (a : Look) (rest : List Char) : Option (Escaped × List Char) :=
  if flags.unicode || a = .notWordBoundary then none else some (.look a, rest)

/-- Reads a Unicode class after `\p` or `\P`: one letter, or a name between braces. -/
def unicodeEscape (verbose negated : Bool) (cs : List Char) : Option (Escaped × List Char) :=
  let negate := fun (s : CharSet) (flip : Bool) =>
    if negated != flip then CharSet.complement s else s
  match skipBlanks verbose cs with
  | '{' :: more =>
    (braced verbose more).bind fun (name, after) =>
      (unicodeClass? (String.ofList name)).map fun (s, flip) => (.set (negate s flip), after)
  | '\\' :: _ => none
  | n :: after => (CharSet.unicode? (looseName n.toString)).map fun s => (.set (negate s false), after)
  | [] => none

/-- Reads an escape, after its backslash. -/
def escape (flags : Flags) : List Char → Option (Escaped × List Char)
  | [] => none
  | c :: rest =>
    if escapable c then some (.literal c.toNat, rest)
    else match c with
      | 'a' => some (.literal 7, rest)
      | 'f' => some (.literal 12, rest)
      | 't' => some (.literal 9, rest)
      | 'n' => some (.literal 10, rest)
      | 'r' => some (.literal 13, rest)
      | 'v' => some (.literal 11, rest)
      | 'x' | 'u' | 'U' =>
        let width := if c = 'x' then 2 else if c = 'u' then 4 else 8
        (hexEscape flags.verbose width rest).bind fun (n, fixed, more) =>
          if !flags.unicode && c = 'x' && fixed && n > 127 then none else some (.literal n, more)
      | 'd' | 'w' | 's' => (perlClass flags.unicode c).map fun s => (.set s, rest)
      | 'D' | 'W' | 'S' =>
        if flags.unicode then
          (perlClass flags.unicode c).map fun s => (.set (CharSet.complement s), rest)
        else none
      | 'p' | 'P' => if flags.unicode then unicodeEscape flags.verbose (c = 'P') rest else none
      | 'A' => some (.look .textStart, rest)
      | 'z' => some (.look .textEnd, rest)
      | 'b' =>
        match rest with
        | '{' :: more =>
          match boundaryName? flags.verbose more with
          | some (some (a, after)) => wordLook flags a after
          | some none => wordLook flags .wordBoundary rest
          | none => none
        | _ => wordLook flags .wordBoundary rest
      | 'B' => wordLook flags .notWordBoundary rest
      | '<' => wordLook flags .wordStart rest
      | '>' => wordLook flags .wordEnd rest
      | _ => none

/-- Reads a decimal number, with blanks around it. -/
def decimal? (cs : List Char) : Option (Nat × List Char) :=
  let cs := cs.dropWhile isBlank
  let (ds, rest) := cs.span Char.isDigit
  if ds.isEmpty then none
  else some (ds.foldl (fun n d => 10 * n + (d.toNat - 48)) 0, rest.dropWhile isBlank)

/-- Reads the bounds of a counted repetition, after its `{`. -/
def counted? (cs : List Char) : Option ((Nat × Option Nat) × List Char) := do
  let (lo, rest) ← decimal? cs
  match rest with
  | '}' :: more => some ((lo, some lo), more)
  | ',' :: more =>
    match more.dropWhile isBlank with
    | '}' :: after => some ((lo, none), after)
    | more' =>
      let (hi, rest') ← decimal? more'
      match rest' with
      | '}' :: after => if lo ≤ hi then some ((lo, some hi), after) else none
      | _ => none
  | _ => none

/-- Reads a class item that is one character, escaped or not. -/
def classChar? (flags : Flags) : List Char → Option (Escaped × List Char)
  | '\\' :: rest => escape flags rest
  | c :: rest => some (.literal c.toNat, rest)
  | [] => none

/-- The set of a class item; an assertion is none. -/
def Escaped.toSet : Escaped → Option CharSet
  | .literal c => some (CharSet.single c)
  | .set s => some s
  | .look _ => none

/-- The set operations of classes. -/
inductive SetOp where
  | inter
  | diff
  | symmDiff

/-- Applies a set operation. -/
def SetOp.apply : SetOp → CharSet → CharSet → CharSet
  | .inter => CharSet.inter
  | .diff => CharSet.diff
  | .symmDiff => CharSet.symmDiff

/-- Reads a `[:name:]` class, after its `[`. -/
def posixClass? (cs : List Char) : Option (CharSet × List Char) :=
  match cs with
  | ':' :: rest =>
    let (negated, rest) := match rest with
      | '^' :: more => (true, more)
      | more => (false, more)
    match rest.span Char.isAlpha with
    | (name, ':' :: ']' :: after) =>
      (CharSet.posix? (String.ofList name)).map fun s =>
        (if negated then CharSet.complement s else s, after)
    | _ => none
  | _ => none

/-- The items of a class read since its start or its last set operation: their set, how many
there are, and how deeply the deepest nests. -/
structure ClassUnion where
  set : CharSet := []
  count : Nat := 0
  depth : Nat := 0

/-- Adds an item to a union. -/
def ClassUnion.add (u : ClassUnion) (s : CharSet) (depth : Nat) : ClassUnion :=
  { set := u.set ++ s, count := u.count + 1, depth := max u.depth depth }

/-- How deeply a union nests: a union of two items or more is a level of its own. -/
def ClassUnion.nesting (u : ClassUnion) : Nat :=
  if 2 ≤ u.count then u.depth + 1 else u.depth

/-- Combines the operands of a class's set operations from the left, each closed by `fold`
first: `ops` holds each operation with the union to its left, latest first, and `last` is the
union after the last one. Answers the set and how deeply it nests, each operation being a
level. -/
def combine (fold : CharSet → CharSet) (ops : List (SetOp × ClassUnion)) (last : ClassUnion) :
    CharSet × Nat :=
  match ops.reverse with
  | [] => (last.set, last.nesting)
  | (op, first) :: more =>
    ((op :: more.map Prod.fst).zip (more.map Prod.snd ++ [last])).foldl
      (fun (left, depth) (op, right) =>
        (op.apply (fold left) (fold right.set), max depth right.nesting + 1))
      (first.set, first.nesting)

/-- Whether a `-` after a class item starts a range: it does unless a `]` or another `-`
follows it. -/
def startsRange (verbose : Bool) : List Char → Bool
  | '-' :: more =>
    match skipBlanks verbose more with
    | ']' :: _ | '-' :: _ | [] => false
    | _ => true
  | _ => false

/-- Reads the `-` characters that open a class, each standing for itself; answers how many. -/
def leadingDashes (verbose : Bool) : List Char → Nat × List Char
  | '-' :: rest =>
    let (n, after) := leadingDashes verbose (skipBlanks verbose rest)
    (n + 1, after)
  | cs => (0, cs)
termination_by cs => cs.length
decreasing_by
  have := length_skipBlanks_le verbose rest
  simp only [List.length_cons]
  omega

mutual
/-- Reads the items of a class up to its closing `]`, given the union read since the last set
operation and the operations before it. Both ends of a range are single characters. -/
def classBody (flags : Flags) : Nat → List Char → ClassUnion → List (SetOp × ClassUnion) →
    Option (ClassUnion × List (SetOp × ClassUnion) × List Char)
  | 0, _, _, _ => none
  | fuel + 1, cs, acc, ops =>
    match skipBlanks flags.verbose cs with
    | [] => none
    | ']' :: rest => some (acc, ops, rest)
    | '&' :: '&' :: rest => classBody flags fuel rest {} ((.inter, acc) :: ops)
    | '-' :: '-' :: rest => classBody flags fuel rest {} ((.diff, acc) :: ops)
    | '~' :: '~' :: rest => classBody flags fuel rest {} ((.symmDiff, acc) :: ops)
    | '[' :: rest =>
      match posixClass? rest with
      | some (s, after) => classBody flags fuel after (acc.add s 0) ops
      | none =>
        match bracket flags fuel rest with
        | some (s, depth, after) => classBody flags fuel after (acc.add s depth) ops
        | none => none
    | cs =>
      match classChar? flags cs with
      | none => none
      | some (item, after) =>
        let after := skipBlanks flags.verbose after
        if startsRange flags.verbose after then
          match item, classChar? flags (skipBlanks flags.verbose (after.drop 1)) with
          | .literal lo, some (.literal hi, after') =>
            if lo ≤ hi then classBody flags fuel after' (acc.add [(lo, hi)] 0) ops else none
          | _, _ => none
        else
          match item.toSet with
          | some s => classBody flags fuel after (acc.add s 0) ops
          | none => none
/-- Reads a class after its `[`: an optional `^`, leading `-` characters or else a leading `]`
taken as themselves, then the items up to the closing `]`. The class is closed under case
before it is negated, and it nests one level deeper than its contents. -/
def bracket (flags : Flags) : Nat → List Char → Option (CharSet × Nat × List Char)
  | 0, _ => none
  | fuel + 1, cs =>
    let (negated, cs) := match skipBlanks flags.verbose cs with
      | '^' :: rest => (true, skipBlanks flags.verbose rest)
      | rest => (false, rest)
    let (dashes, cs) := leadingDashes flags.verbose cs
    let (first, cs) : ClassUnion × List Char :=
      if dashes = 0 then
        match cs with
        | ']' :: rest => ({ set := CharSet.single 93, count := 1 }, rest)
        | rest => ({}, rest)
      else ({ set := CharSet.single 45, count := dashes }, cs)
    match classBody flags fuel cs first [] with
    | none => none
    | some (acc, ops, rest) =>
      let (set, depth) := combine flags.fold ops acc
      let set := flags.fold set
      let set := if negated then CharSet.complement set else set
      if flags.allows set then some (set, depth + 1, rest) else none
end

/-- Reads the flags of `(?flags)` or `(?flags:`, after the `?`: the flags, whether a group
follows, and the rest. -/
def groupFlags (flags : Flags) : List Char → Bool → List Char → Option (Flags × Bool × List Char)
  | [], _, _ => none
  | c :: rest, negated, seen =>
    if c = ')' || c = ':' then
      if (c = ')' && seen.isEmpty) || (negated && seen.getLast? = some '-') then none
      else some (flags, c = ':', rest)
    else if c = '-' then
      if negated then none else groupFlags flags rest true (seen ++ [c])
    else if seen.contains c then none
    else
      let on := !negated
      let flags? : Option Flags := match c with
        | 'i' => some { flags with caseless := on }
        | 'm' => some { flags with multiLine := on }
        | 's' => some { flags with dotAll := on }
        | 'x' => some { flags with verbose := on }
        | 'U' => some { flags with swapGreed := on }
        | 'u' => some { flags with unicode := on }
        | 'R' => some { flags with crlf := on }
        | _ => none
      flags?.bind fun f => groupFlags f rest negated (seen ++ [c])

/-- Whether a text is a group name: a letter or underscore, then letters, digits, underscores,
dots and brackets. -/
def isGroupName (cs : List Char) : Bool :=
  match cs with
  | [] => false
  | c :: rest =>
    (isAlphabetic c || c = '_') &&
      rest.all fun d => isAlphanumeric d || d = '_' || d = '.' || d = '[' || d = ']'

/-- What opens a group: the flags inside it, its name if it has one, and the rest after the
opening; or, for `(?flags)`, the flags for the rest of the enclosing group. -/
inductive Opening where
  | group (flags : Flags) (name : Option String) (rest : List Char)
  | setFlags (flags : Flags) (rest : List Char)

/-- Reads what follows an opening parenthesis. -/
def opening (flags : Flags) (cs : List Char) : Option Opening :=
  match skipBlanks flags.verbose cs with
  | '?' :: rest =>
    match rest with
    | 'P' :: '<' :: more | '<' :: more =>
      match more.span (· != '>') with
      | (name, '>' :: after) =>
        if isGroupName name then some (.group flags (some (String.ofList name)) after) else none
      | _ => none
    | _ =>
      (groupFlags flags rest false []).map fun (f, isGroup, after) =>
        if isGroup then .group f none after else .setFlags f after
  | rest => some (.group flags none rest)

/-- A part of a sequence being read: its expression (`none` for a `(?flags)`, which cannot be
repeated) and how deeply its syntax nests. -/
structure Piece where
  expr : Option Regex
  depth : Nat

/-- The parts of the sequence being read, latest first, and the alternatives already closed,
each with how deeply it nests. -/
structure Frame where
  flags : Flags
  pieces : List Piece := []
  branches : List (Regex × Nat) := []

/-- The expression of a sequence of parts, latest first. -/
def sequence (pieces : List Piece) : Regex :=
  Regex.seqAll (pieces.reverse.filterMap (·.expr))

/-- How deeply a sequence nests: a sequence of two parts or more is a level of its own. -/
def sequenceDepth (pieces : List Piece) : Nat :=
  match pieces with
  | [] => 0
  | [p] => p.depth
  | ps => (ps.map (·.depth)).foldl max 0 + 1

/-- The alternatives in order, the first preferred. -/
def alternation : List Regex → Regex
  | [] => .empty
  | [r] => r
  | r :: rs => .alt r (alternation rs)

/-- The expression of a group whose reading is done, and how deeply it nests: alternatives
are a level of their own. -/
def Frame.close (f : Frame) : Regex × Nat :=
  let all := f.branches.reverse ++ [(sequence f.pieces, sequenceDepth f.pieces)]
  (alternation (all.map Prod.fst), match all with
    | [(_, d)] => d
    | _ => (all.map Prod.snd).foldl max 0 + 1)

/-- Adds a part to a frame. -/
def Frame.push (f : Frame) (r : Regex) (depth : Nat) : Frame :=
  { f with pieces := ⟨some r, depth⟩ :: f.pieces }

/-- Repeats the latest part of a frame, one level deeper. -/
def Frame.repeatLast (f : Frame) (greedy : Bool) (lo : Nat) (hi : Option Nat) : Option Frame :=
  match f.pieces with
  | ⟨some r, depth⟩ :: rest =>
    some { f with pieces := ⟨some (.repeat greedy lo hi r), depth + 1⟩ :: rest }
  | _ => none

/-- Reads the `?` right after a repetition that makes it lazy: whether the repetition is
greedy under the flags, and the rest. -/
def greediness (flags : Flags) : List Char → Bool × List Char
  | '?' :: rest => (flags.swapGreed, rest)
  | cs => (!flags.swapGreed, cs)

/-- The expression of a literal character under the flags; with Unicode off, a non-ASCII
character cannot be matched regardless of case. -/
def literalUnder (flags : Flags) (c : Nat) : Option Regex :=
  if flags.caseless && !flags.unicode && c > 127 then none
  else some (.chars (flags.fold (CharSet.single c)))

/-- The expression of a class of characters under the flags. -/
def classUnder (flags : Flags) (s : CharSet) : Option Regex :=
  let s := flags.fold s
  if flags.allows s then some (.chars s) else none

/-- Reads a group's contents up to its closing parenthesis (or, at the top, to the end of the
text); `depth` counts the groups open around it and `names` the group names used so far.
Answers the group's expression, how deeply it nests, the names, and the rest. -/
def body : Nat → Nat → Frame → List String → List Char →
    Option ((Regex × Nat) × List String × List Char)
  | 0, _, _, _, _ => none
  | fuel + 1, depth, f, names, cs =>
    let push (r : Regex) (rest : List Char) := body fuel depth (f.push r 0) names rest
    let repeatWith (lo : Nat) (hi : Option Nat) (rest : List Char) :=
      let (greedy, rest) := greediness f.flags rest
      (f.repeatLast greedy lo hi).bind fun f => body fuel depth f names rest
    match skipBlanks f.flags.verbose cs with
    | [] => if depth = 0 then some (f.close, names, []) else none
    | ')' :: rest => if depth = 0 then none else some (f.close, names, rest)
    | '|' :: rest =>
      body fuel depth
        { f with pieces := [], branches := (sequence f.pieces, sequenceDepth f.pieces) :: f.branches }
        names rest
    | '(' :: rest =>
      match opening f.flags rest with
      | none => none
      | some (.setFlags flags after) =>
        body fuel depth { f with flags, pieces := ⟨none, 0⟩ :: f.pieces } names after
      | some (.group flags name after) =>
        if name.any names.contains then none
        else
          match body fuel (depth + 1) { flags } (names ++ name.toList) after with
          | some ((r, d), names, more) => body fuel depth (f.push r (d + 1)) names more
          | none => none
    | '[' :: rest =>
      match bracket f.flags fuel rest with
      | some (s, d, more) => body fuel depth (f.push (.chars s) d) names more
      | none => none
    | '*' :: rest => repeatWith 0 none rest
    | '+' :: rest => repeatWith 1 none rest
    | '?' :: rest => repeatWith 0 (some 1) rest
    | '{' :: rest =>
      match counted? rest with
      | some ((lo, hi), more) => repeatWith lo hi more
      | none => none
    | '\\' :: rest =>
      match escape f.flags rest with
      | some (.literal c, more) => (literalUnder f.flags c).bind fun r => push r more
      | some (.set s, more) => (classUnder f.flags s).bind fun r => push r more
      | some (.look a, more) => push (.look a) more
      | none => none
    | '.' :: rest =>
      let s : CharSet := if f.flags.dotAll then [(0, CharSet.maxCode)]
        else if f.flags.crlf then [(0, 9), (11, 12), (14, CharSet.maxCode)]
        else [(0, 9), (11, CharSet.maxCode)]
      if f.flags.allows s then push (.chars s) rest else none
    | '^' :: rest =>
      push (.look (if !f.flags.multiLine then .textStart else if f.flags.crlf then .crlfStart
        else .lineStart)) rest
    | '$' :: rest =>
      push (.look (if !f.flags.multiLine then .textEnd else if f.flags.crlf then .crlfEnd
        else .lineEnd)) rest
    | c :: rest => (literalUnder f.flags c.toNat).bind fun r => push r rest

end RegexSyntax

/-- Reads a regular expression; `none` when it is not one or nests too deeply. -/
def Regex.parse? (s : String) : Option Regex :=
  match RegexSyntax.body (s.length + 1) 0 { flags := {} } [] s.toList with
  | some ((r, depth), _, _) => if depth ≤ RegexSyntax.nestLimit then some r else none
  | none => none

end WordMachine.Text
