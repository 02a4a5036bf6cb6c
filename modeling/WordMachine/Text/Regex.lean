import WordMachine.Text.CharSet

/-!
# Regular expressions and their search

A regular expression here is built from character sets, zero-width assertions about the
characters around a position (`Look`), sequence, alternation that prefers its first branch, and
repetition between bounds that is greedy (prefers one more round) or lazy (prefers to stop).

`Regex.accepts` answers what an unanchored automaton with leftmost-first preference answers when
it has read a whole text: whether it stands in a matching state at the end. The expression is
first compiled to numbered states (`Regex.automaton`), each repetition compiled once per round
it must or may make and an unbounded one as a loop, so nested repetitions stay small. The
search runs *threads*, states of the automaton, in order of preference, and starts a new thread
at the start state at each position, after all others, until a match is found. At each position
the threads are first followed through the states that match no character
(`Automaton.follow`), each state once: a thread that reaches the accepting state is a match, and
the threads after it are dropped, since the match is preferred to them, and with them the
starting of new threads. The threads that wait on a character then step over the next one. So
a match that ends early ends the search, unless a thread preferred to it is still alive: `e..`
accepts `pad: false }` (the first `e` starts `e }` at the end) but not `address }` (the match
`ess` comes first and stops everything), and `x*` accepts only the texts made of `x` alone,
since its empty match at the start stops new threads from starting.
-/

namespace WordMachine.Text

/-- Whether a character belongs to words in ASCII: a letter, a digit or the underscore. -/
def isAsciiWordChar (c : Char) : Bool := c.isAlphanum || c = '_'

/-- A zero-width assertion about the characters before and after a position. -/
inductive Look where
  /-- At the start of the text. -/
  | textStart
  /-- At the end of the text. -/
  | textEnd
  /-- At the start of a line: the start of the text or after a line feed. -/
  | lineStart
  /-- At the end of a line: the end of the text or before a line feed. -/
  | lineEnd
  /-- At the start of a line ended by a line feed, a carriage return or both. -/
  | crlfStart
  /-- At the end of a line ended by a line feed, a carriage return or both. -/
  | crlfEnd
  /-- Between a word character and another character, or the start or end of the text. -/
  | wordBoundary
  /-- Not at a word boundary. -/
  | notWordBoundary
  /-- Where a word starts. -/
  | wordStart
  /-- Where a word ends. -/
  | wordEnd
  /-- Where no word character stands before. -/
  | wordStartHalf
  /-- Where no word character stands after. -/
  | wordEndHalf
  deriving DecidableEq, Repr

/-- Whether the assertion holds between `before` and `after`, `none` standing for the start
or the end of the text. -/
def Look.holds (before after : Option Char) : Look → Bool
  | .textStart => before.isNone
  | .textEnd => after.isNone
  | .lineStart => before.all (· = '\n')
  | .lineEnd => after.all (· = '\n')
  | .crlfStart =>
    match before with
    | none | some '\n' => true
    | some '\r' => after != some '\n'
    | some _ => false
  | .crlfEnd =>
    match after with
    | none | some '\r' => true
    | some '\n' => before != some '\r'
    | some _ => false
  | .wordBoundary => before.any isAsciiWordChar != after.any isAsciiWordChar
  | .notWordBoundary => before.any isAsciiWordChar == after.any isAsciiWordChar
  | .wordStart => !before.any isAsciiWordChar && after.any isAsciiWordChar
  | .wordEnd => before.any isAsciiWordChar && !after.any isAsciiWordChar
  | .wordStartHalf => !before.any isAsciiWordChar
  | .wordEndHalf => !after.any isAsciiWordChar

/-- A regular expression over characters. -/
inductive Regex where
  /-- Matches the empty text. -/
  | empty
  /-- Matches one character of a set. -/
  | chars (set : CharSet)
  /-- Matches the empty text where an assertion holds. -/
  | look (a : Look)
  /-- A text of the first followed by one of the second. -/
  | seq (a b : Regex)
  /-- A text of either, the first preferred. -/
  | alt (a b : Regex)
  /-- At least `lo` texts of the expression and at most `hi` of them (no bound for `none`),
  one after the other; a greedy repetition prefers one more, a lazy one prefers to stop. -/
  | repeat (greedy : Bool) (lo : Nat) (hi : Option Nat) (a : Regex)
  deriving DecidableEq, Repr

namespace Regex

/-- The expressions in sequence. -/
def seqAll : List Regex → Regex
  | [] => .empty
  | [r] => r
  | r :: rs => .seq r (seqAll rs)

/-- The length of the shortest text the expression matches, or `none` when it matches none. -/
def minLength : Regex → Option Nat
  | .empty | .look _ => some 0
  | .chars s => if s.isEmpty then none else some 1
  | .seq a b => do let m ← a.minLength; let n ← b.minLength; pure (m + n)
  | .alt a b =>
    match a.minLength, b.minLength with
    | some m, some n => some (min m n)
    | some m, none | none, some m => some m
    | none, none => none
  | .repeat _ lo _ a => if lo = 0 then some 0 else a.minLength.map (lo * ·)

end Regex

/-! ## The automaton -/

/-- A state of the automaton an expression compiles to; states are numbered, and `next` names
the state that follows. -/
inductive Node where
  /-- Steps over one character of the set. -/
  | chars (set : CharSet) (next : Nat)
  /-- Goes on where the assertion holds. -/
  | look (a : Look) (next : Nat)
  /-- Goes on at either state, the first preferred. -/
  | split (first second : Nat)
  /-- The whole expression has matched. -/
  | accept
  deriving DecidableEq, Repr

/-- Building an automaton: the states so far. -/
abbrev Build := StateM (Array Node)

/-- Adds a state; answers its number. -/
def Build.add (n : Node) : Build Nat := modifyGet fun a => (a.size, a.push n)

/-- Replaces a state added before. -/
def Build.set (i : Nat) (n : Node) : Build Unit := modify fun a => a.set! i n

/-- A choice between going on at `more` and leaving for `exit`, `more` preferred when greedy. -/
def choice (greedy : Bool) (more exit : Nat) : Node :=
  if greedy then .split more exit else .split exit more

namespace Regex

/-- Compiles the expression to states that go on at `next` once it has matched; answers the
state to start at. A repetition compiles its expression once for each round it must or may
make, except that an unbounded one loops back: at least one round is the expression followed
by a choice to go round again; any number of rounds is a choice to enter it when the expression
cannot match the empty text, and otherwise one or more rounds made optional, which keeps the
preference of an empty round below that of leaving. -/
def compile : Regex → Nat → Build Nat
  | .empty, next => pure next
  | .chars s, next => Build.add (.chars s next)
  | .look a, next => Build.add (.look a next)
  | .seq a b, next => do
    let b0 ← b.compile next
    a.compile b0
  | .alt a b, next => do
    let a0 ← a.compile next
    let b0 ← b.compile next
    Build.add (.split a0 b0)
  | .repeat g lo hi a, next => do
    let copies (n : Nat) (tail : Nat) : Build Nat :=
      (List.range n).foldlM (fun t _ => a.compile t) tail
    match hi with
    | some hi =>
      let optional ← (List.range (hi - lo)).foldlM (fun t _ => do
        let more ← a.compile t
        Build.add (choice g more next)) next
      copies lo optional
    | none =>
      let loop ← Build.add .accept
      let body ← a.compile loop
      Build.set loop (choice g body next)
      if 0 < lo then copies (lo - 1) body
      else if a.minLength.any (0 < ·) then pure loop
      else Build.add (choice g body next)

end Regex

/-- An expression compiled: its states and the one to start at. -/
structure Automaton where
  nodes : Array Node
  start : Nat

/-- The automaton of an expression, its accepting state numbered `0`. -/
def Regex.automaton (r : Regex) : Automaton :=
  let (start, nodes) := (do
    let done ← Build.add .accept
    r.compile done).run #[]
  ⟨nodes, start⟩

namespace Automaton

/-- Follows threads, most preferred first, through the states that match no character at a
position between `before` and `after`. Answers the threads that wait on a character, in order,
and whether one of the threads reached the accepting state; the threads after it are dropped,
since the match is preferred to them. A state met twice is followed once. -/
def follow (m : Automaton) (before after : Option Char) : Nat → List Nat → Array Bool → List Nat →
    List Nat × Bool
  | 0, _, _, waiting => (waiting.reverse, false)
  | _ + 1, [], _, waiting => (waiting.reverse, false)
  | fuel + 1, i :: todo, seen, waiting =>
    if seen.getD i true then m.follow before after fuel todo seen waiting
    else
      let seen := seen.set! i true
      match m.nodes[i]? with
      | some .accept => (waiting.reverse, true)
      | some (.chars _ _) => m.follow before after fuel todo seen (i :: waiting)
      | some (.look a next) =>
        m.follow before after fuel (if a.holds before after then next :: todo else todo) seen waiting
      | some (.split first second) => m.follow before after fuel (first :: second :: todo) seen waiting
      | none => m.follow before after fuel todo seen waiting

/-- The states the waiting threads step to over a character. -/
def advance (m : Automaton) (c : Char) (waiting : List Nat) : List Nat :=
  waiting.filterMap fun i => match (m.nodes[i]? : Option Node) with
    | some (.chars s next) => if s.mem c.toNat then some next else none
    | _ => none

/-- The closure at a position: the live threads and, while the search still starts new ones,
a thread at the start after all of them. Each state is visited once, so the fuel suffices. -/
def closure (m : Automaton) (before after : Option Char) (threads : List Nat) (starting : Bool) :
    List Nat × Bool :=
  let todo := if starting then threads ++ [m.start] else threads
  m.follow before after (todo.length + 2 * m.nodes.size + 2) todo (Array.replicate m.nodes.size false) []

/-- Scans the rest of a text, `before` being the character read last. `threads` are the live
threads, and `starting` tells whether new threads still start. -/
def scan (m : Automaton) (before : Option Char) (threads : List Nat) (starting : Bool) :
    List Char → Bool
  | [] => (m.closure before none threads starting).2
  | c :: cs =>
    let (waiting, matched) := m.closure before (some c) threads starting
    let next := m.advance c waiting
    let starting := starting && !matched
    if next.isEmpty && !starting then false else m.scan (some c) next starting cs

end Automaton

/-- Whether an unanchored leftmost-first search of the text stands in a matching state at its
end. -/
def Regex.accepts (r : Regex) (s : String) : Bool := r.automaton.scan none [] true s.toList

end WordMachine.Text
