import WordMachine.Text.Printable
import WordMachine.Text.GraphemeExtend

/-!
# Quoted text

The quoted forms of a character (`'a'`) and of a string (`"ab"`). Inside them a backslash
writes the NUL, tab, carriage return, line feed, the backslash itself and the quote that
delimits the form; a grapheme extender and every character that is not printable is written
`\u{hex}` with its code point in lowercase hexadecimal; every other character stands as it is.

A log message keeps its characters but for the controls that drive a terminal
(`terminalSafe`).
-/

namespace WordMachine.Text

/-- Lowercase hexadecimal digits of a number, without leading zeros. -/
def hexDigits (n : Nat) : String := String.ofList (Nat.toDigits 16 n)

/-- A character in the `\u{hex}` form. -/
def unicodeEscape (c : Char) : String := "\\u" ++ "\x7b" ++ hexDigits c.toNat ++ "\x7d"

/-- How a character stands inside a quoted form delimited by `quote`. -/
def escapeChar (quote : Char) (c : Char) : String :=
  if c = '\x00' then "\\0"
  else if c = '\t' then "\\t"
  else if c = '\r' then "\\r"
  else if c = '\n' then "\\n"
  else if c = '\\' then "\\\\"
  else if c = quote then "\\" ++ c.toString
  else if isGraphemeExtend c then unicodeEscape c
  else if isPrintable c then c.toString
  else unicodeEscape c

/-- How a log message shows a character: the escape, bell, backspace, form feed and delete
controls as a backslash, `x` and two lowercase hexadecimal digits, the controls from `0x80` to
`0x9f` in the `\u{hex}` form, and every other character as it is. These are the controls that
would move or restyle a terminal, so a message read from outside cannot. -/
def terminalSafeChar (c : Char) : String :=
  if c = '\x1b' || c = '\x07' || c = '\x08' || c = '\x0c' || c = '\x7f' then
    let d := hexDigits c.toNat
    "\\x" ++ (if d.length < 2 then "0" ++ d else d)
  else if 0x80 ≤ c.toNat && c.toNat ≤ 0x9f then unicodeEscape c
  else c.toString

/-- A log message with its terminal controls escaped (`terminalSafeChar`). -/
def terminalSafe (s : String) : String := String.join (s.toList.map terminalSafeChar)

/-- The quoted form of a character, in single quotes. -/
def quoteChar (c : Char) : String := "'" ++ escapeChar '\'' c ++ "'"

/-- The quoted form of a string, in double quotes. -/
def quoteString (s : String) : String :=
  "\"" ++ String.join (s.toList.map (escapeChar '"')) ++ "\""

end WordMachine.Text
