/-!
# Decimal integers

Reading a decimal integer of fixed width: an optional sign (`+`, and `-` for signed widths),
then digits only. The failures, in the order the text is read: an empty text; a sign alone or
any character that is no digit; a value past the width's largest or smallest number.
-/

namespace WordMachine.Text

/-- Why a text is no integer of the required width. -/
inductive IntegerError where
  | empty
  | invalidDigit
  | tooLarge
  | tooSmall
  deriving DecidableEq, Repr

/-- The text of an integer reading failure. -/
def IntegerError.message : IntegerError → String
  | .empty => "cannot parse integer from empty string"
  | .invalidDigit => "invalid digit found in string"
  | .tooLarge => "number too large to fit in target type"
  | .tooSmall => "number too small to fit in target type"

/-- Accumulates digits into a magnitude, failing at the first non-digit or once the magnitude
passes `limit` (then `overflow`). -/
def readDigits (limit : Nat) (overflow : IntegerError) : List Char → Nat → Except IntegerError Nat
  | [], acc => .ok acc
  | c :: cs, acc =>
    if c.isDigit then
      let acc' := acc * 10 + (c.toNat - '0'.toNat)
      if acc' > limit then .error overflow else readDigits limit overflow cs acc'
    else .error .invalidDigit

/-- Reads an integer in `min ..= max`; `signed` allows a leading `-`. -/
def readInteger (s : String) (signed : Bool) (min : Int) (max : Nat) : Except IntegerError Int :=
  match s.toList with
  | [] => .error .empty
  | ['+'] | ['-'] => .error .invalidDigit
  | '+' :: ds => (readDigits max .tooLarge ds 0).map Int.ofNat
  | '-' :: ds =>
    if signed then (readDigits min.natAbs .tooSmall ds 0).map fun n => -(Int.ofNat n)
    else .error .invalidDigit
  | ds => (readDigits max .tooLarge ds 0).map Int.ofNat

/-- Reads a signed 64-bit integer. -/
def readInt64 (s : String) : Except IntegerError Int :=
  readInteger s true (-9223372036854775808) 9223372036854775807

/-- Reads an unsigned 64-bit integer. -/
def readUInt64 (s : String) : Except IntegerError Nat :=
  (readInteger s false 0 18446744073709551615).map Int.toNat

end WordMachine.Text
