import WordMachine.Word
import WordMachine.Fault
import WordMachine.Text.Utf8
import WordMachine.Text.Blank

/-!
# The console

The console is where `out` writes and `in` reads. Output goes to a stream as UTF-8; a value
that is no Unicode scalar value is written as `U+FFFD`, and a line feed flushes the stream.
Input is taken a whole line at a time, newline included: `in` hands out the characters of the
current line one by one and fetches the next line only when the current one is used up,
flushing the output first so that a prompt is visible. A line that is not well-formed UTF-8
fails and is dropped whole; a character above `32767` fails and is consumed.

An accepting stream holds what it is given in a line buffer of `lineBufferSize` bytes and
hands it on to its device at each line feed, at each flush, and when a write would overflow the
buffer (`Console.delivered` counts the bytes handed on). Only a device that other writers
share sees the difference.
-/

namespace WordMachine

/-- How the stream behind the console's output behaves. -/
inductive OutputStream where
  /-- Accepts every write and flush. -/
  | accepting
  /-- Fails every write, as closed, and every flush, as refused. -/
  | closed
  /-- Accepts every write and fails every flush. -/
  | refusingFlush
  deriving DecidableEq, Repr

/-- The console: input not yet read, the current line's remaining characters, and the
output stream with the bytes it accepted. -/
structure Console where
  /-- Input bytes not yet read. -/
  input : List UInt8
  /-- Characters of the current line not yet handed out. -/
  pending : List Char := []
  /-- How the output stream behaves. -/
  stream : OutputStream := .accepting
  /-- Bytes the output stream accepted, oldest first. -/
  written : Array UInt8 := #[]
  /-- How many of the accepted bytes the stream handed on to its device. -/
  delivered : Nat := 0
  deriving Repr

/-- The size of the buffer in front of the console's device. -/
def lineBufferSize : Nat := 1024

/-- The character written for a word: the Unicode scalar value it numbers, else `U+FFFD`. -/
def Word.toChar (v : Word) : Char :=
  if v.toNat.isValidChar then Char.ofNat v.toNat else '�'

/-- The bytes of input up to and including the first line feed, and the rest. -/
def takeLine : List UInt8 → List UInt8 × List UInt8
  | [] => ([], [])
  | b :: rest =>
    if b = 10 then ([b], rest)
    else let (line, rest') := takeLine rest; (b :: line, rest')

/-- What a read of the console gives: the result, the console after it, and the line that
the read fetched, if it fetched one. -/
structure Console.Reading where
  /-- The code point read, or why none was. -/
  result : Except Fault Word
  /-- The console after the read. -/
  console : Console
  /-- The line fetched from the input by this read, if any. -/
  line : Option (List Char) := none

namespace Console

/-- A console over the given input, with an accepting output. -/
def ofInput (input : List UInt8) (stream : OutputStream := .accepting) : Console :=
  { input, stream }

/-- Pushes buffered output out. -/
def flush (c : Console) : Except Fault Unit :=
  match c.stream with
  | .accepting => .ok ()
  | .closed | .refusingFlush => .error (.io .flushRefused)

/-- The console once a flush handed everything accepted on to the device. -/
def settle (c : Console) : Console :=
  match c.stream with
  | .accepting => { c with delivered := c.written.size }
  | _ => c

/-- Writes the character with the given code point; a line feed also flushes. -/
def writeChar (c : Console) (v : Word) : Except Fault Unit × Console :=
  match c.stream with
  | .closed => (.error (.io .outputClosed), c)
  | _ =>
    let ch := v.toChar
    let bytes := (Text.Utf8.encodeChar ch).toArray
    let held := c.written.size - c.delivered
    let c := if held + bytes.size > lineBufferSize then c.settle else c
    let c' := { c with written := c.written ++ bytes }
    if ch = '\n' then (c'.flush, c'.settle) else (.ok (), c')

/-- Hands out the next character of the current line as a word. -/
def takePending (c : Console) (line : Option (List Char)) : Reading :=
  match c.pending with
  | [] => { result := .error .inputExhausted, console := c, line }
  | ch :: rest =>
    let c' := { c with pending := rest }
    if ch.toNat ≤ 32767 then { result := .ok ch.toNat.toUInt16, console := c', line }
    else { result := .error (.invalidInput ch), console := c', line }

/-- Reads one character, fetching the next line of input when the current one is used up. -/
def readChar (c : Console) : Reading :=
  match c.pending with
  | _ :: _ => c.takePending none
  | [] =>
    match c.flush with
    | .error e => { result := .error e, console := c }
    | .ok () =>
      let c := c.settle
      match c.input with
      | [] => { result := .error .inputExhausted, console := c }
      | _ :: _ =>
        let (bytes, rest) := takeLine c.input
        match Text.Utf8.decode? bytes with
        | none => { result := .error (.io .invalidUtf8), console := { c with input := rest } }
        | some chars =>
          { c with input := rest, pending := chars }.takePending (some (Text.trimEnd chars))

/-- The output accepted so far, as text. -/
def outputText (c : Console) : String :=
  String.ofList ((Text.Utf8.decode? c.written.toList).getD [])

end Console

end WordMachine
