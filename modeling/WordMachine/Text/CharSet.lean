import WordMachine.Text.CaseFold

/-!
# Character sets

A set of characters is a list of inclusive ranges of code points. The set operations normalize
their result to sorted ranges that neither overlap nor touch, so a set has one form whatever the
ranges it was written with. Besides the operations, this module names the classes that patterns
refer to: the digits, the word characters, the blanks, the classes `[:alpha:]` and the Unicode
classes `\pL`. The ASCII members of every named class are exact; beyond ASCII the Unicode
classes are approximated, the blanks apart, which are exact.
-/

namespace WordMachine.Text

/-- A set of characters, as inclusive ranges of code points. -/
abbrev CharSet := List (Nat × Nat)

namespace CharSet

/-- The largest code point. -/
def maxCode : Nat := 0x10FFFF

/-- Whether a code point is in the set. -/
def mem (s : CharSet) (n : Nat) : Bool := s.any fun r => r.1 ≤ n && n ≤ r.2

/-- Merges ranges sorted by their starts into disjoint ranges that do not touch. -/
def mergeSorted : CharSet → CharSet
  | [] => []
  | [r] => [r]
  | (a, b) :: (c, d) :: rest =>
    if c ≤ b + 1 then mergeSorted ((a, max b d) :: rest) else (a, b) :: mergeSorted ((c, d) :: rest)
termination_by s => s.length

/-- The same set as sorted, disjoint ranges. -/
def normalize (s : CharSet) : CharSet :=
  mergeSorted ((s.filter fun r => r.1 ≤ r.2).mergeSort fun a b => a.1 ≤ b.1)

/-- The code points from `lo` on that a normalized set leaves out. -/
def gapsFrom (lo : Nat) : CharSet → CharSet
  | [] => if lo ≤ maxCode then [(lo, maxCode)] else []
  | (a, b) :: rest => (if lo < a then [(lo, a - 1)] else []) ++ gapsFrom (b + 1) rest

/-- The characters not in the set. -/
def complement (s : CharSet) : CharSet := gapsFrom 0 (normalize s)

/-- The characters in either set. -/
def union (a b : CharSet) : CharSet := normalize (a ++ b)

/-- The characters in both sets. -/
def inter (a b : CharSet) : CharSet := complement (union (complement a) (complement b))

/-- The characters of the first set that are not in the second. -/
def diff (a b : CharSet) : CharSet := inter a (complement b)

/-- The characters in exactly one of the sets. -/
def symmDiff (a b : CharSet) : CharSet := union (diff a b) (diff b a)

/-- The part of a range inside another, shifted by an offset. -/
def shiftedPart (lo hi : Nat) (up : Bool) (offset : Nat) (r : Nat × Nat) : CharSet :=
  let a := max r.1 lo
  let b := min r.2 hi
  if a ≤ b then [if up then (a + offset, b + offset) else (a - offset, b - offset)] else []

/-- The set with the other case of each ASCII letter in it. -/
def asciiCaseClosed (s : CharSet) : CharSet :=
  union s (s.flatMap fun r => shiftedPart 65 90 true 32 r ++ shiftedPart 97 122 false 32 r)

/-- The set with every character that is the same as one of its members but for case. -/
def caseFolded (s : CharSet) : CharSet :=
  union s (caseClasses.toList.flatMap fun cls =>
    if cls.any (mem s) then cls.map fun n => (n, n) else [])

/-- One character. -/
def single (n : Nat) : CharSet := [(n, n)]

/-- Several characters. -/
def ofCodes (ns : List Nat) : CharSet := ns.map fun n => (n, n)

/-- The decimal digits. -/
def digits : CharSet := [(48, 57)]

/-- The characters of words: letters, digits and the underscore. -/
def wordChars : CharSet := [(48, 57), (65, 90), (95, 95), (97, 122)]

/-- The blank characters, `White_Space`. -/
def spaces : CharSet :=
  [(9, 13), (32, 32), (0x85, 0x85), (0xA0, 0xA0), (0x1680, 0x1680), (0x2000, 0x200A),
    (0x2028, 0x2029), (0x202F, 0x202F), (0x205F, 0x205F), (0x3000, 0x3000)]

/-- The ASCII blank characters. -/
def asciiSpaces : CharSet := ofCodes [9, 10, 11, 12, 13, 32]

/-- The ASCII punctuation of the Unicode category `P`. -/
def punctuation : CharSet := ofCodes [33, 34, 35, 37, 38, 39, 40, 41, 42, 44, 45, 46, 47, 58, 59,
  63, 64, 91, 92, 93, 95, 123, 125]

/-- The ASCII symbols of the Unicode category `S`. -/
def symbols : CharSet := ofCodes [36, 43, 60, 61, 62, 94, 96, 124, 126]

/-- The ASCII control characters. -/
def controls : CharSet := [(0, 31), (127, 127)]

/-- A class of the form `[:name:]`, by its name. -/
def posix? : String → Option CharSet
  | "alnum" => some [(48, 57), (65, 90), (97, 122)]
  | "alpha" => some [(65, 90), (97, 122)]
  | "ascii" => some [(0, 127)]
  | "blank" => some (ofCodes [9, 32])
  | "cntrl" => some controls
  | "digit" => some digits
  | "graph" => some [(33, 126)]
  | "lower" => some [(97, 122)]
  | "print" => some [(32, 126)]
  | "punct" => some [(33, 47), (58, 64), (91, 96), (123, 126)]
  | "space" => some asciiSpaces
  | "upper" => some [(65, 90)]
  | "word" => some wordChars
  | "xdigit" => some [(48, 57), (65, 70), (97, 102)]
  | _ => none

/-- A Unicode class by its name, written without case, spaces, dashes or underscores; its
ASCII characters are exact. -/
def unicode? : String → Option CharSet
  | "any" => some [(0, maxCode)]
  | "ascii" => some [(0, 127)]
  | "l" | "letter" | "alphabetic" | "alpha" | "lc" | "casedletter" | "latin" | "latn" =>
    some [(65, 90), (97, 122)]
  | "lu" | "uppercaseletter" | "uppercase" | "upper" => some [(65, 90)]
  | "ll" | "lowercaseletter" | "lowercase" | "lower" => some [(97, 122)]
  | "lt" | "titlecaseletter" | "lm" | "modifierletter" | "lo" | "otherletter" => some []
  | "m" | "mark" | "combiningmark" | "mn" | "nonspacingmark" | "mc" | "spacingmark" | "me"
  | "enclosingmark" => some []
  | "n" | "number" | "nd" | "decimalnumber" | "digit" => some digits
  | "nl" | "letternumber" | "no" | "othernumber" => some []
  | "p" | "punctuation" | "punct" => some punctuation
  | "pc" | "connectorpunctuation" => some (single 95)
  | "pd" | "dashpunctuation" => some (single 45)
  | "ps" | "openpunctuation" => some (ofCodes [40, 91, 123])
  | "pe" | "closepunctuation" => some (ofCodes [41, 93, 125])
  | "pi" | "initialpunctuation" | "pf" | "finalpunctuation" => some []
  | "po" | "otherpunctuation" => some (ofCodes [33, 34, 35, 37, 38, 39, 42, 44, 46, 47, 58, 59, 63, 64, 92])
  | "s" | "symbol" => some symbols
  | "sm" | "mathsymbol" => some (ofCodes [43, 60, 61, 62, 124, 126])
  | "sc" | "currencysymbol" => some (single 36)
  | "sk" | "modifiersymbol" => some (ofCodes [94, 96])
  | "so" | "othersymbol" => some []
  | "z" | "separator" | "zs" | "spaceseparator" => some (single 32)
  | "zl" | "lineseparator" | "zp" | "paragraphseparator" => some []
  | "c" | "other" | "cc" | "control" => some controls
  | "cf" | "format" | "cs" | "surrogate" | "co" | "privateuse" | "cn" | "unassigned" => some []
  | "whitespace" | "wspace" | "space" => some spaces
  | "common" | "zyyy" => some (diff [(0, 127)] [(65, 90), (97, 122)])
  | "greek" | "grek" | "cyrillic" | "cyrl" | "han" | "hani" | "arabic" | "arab" | "hebrew"
  | "hebr" | "hiragana" | "hira" | "katakana" | "kana" | "hangul" | "hang" | "thai" | "devanagari"
  | "deva" => some []
  | _ => none


/-- Whether every member of the set is an ASCII character. -/
def isAscii (s : CharSet) : Bool := s.all fun r => r.1 > r.2 || r.2 < 128

end CharSet

end WordMachine.Text
