/-
Encoded octets.

A reference is ASCII throughout. A byte that has no place in it is written as a
percent sign with two hexadecimal digits.
-/
import CallExplorer.Text.Hex

namespace CallExplorer.Uri

/-- The byte written with two hexadecimal digits. -/
def octet (a b : Char) : UInt8 :=
  UInt8.ofNat ((Text.hexDigit? a).getD 0 * 16 + (Text.hexDigit? b).getD 0)

/-- The bytes a URI text stands for. -/
def decodeOctets : List Char → List UInt8
  | [] => []
  | '%' :: a :: b :: rest => octet a b :: decodeOctets rest
  | c :: rest => UInt8.ofNat c.toNat :: decodeOctets rest

/-- The upper-case hexadecimal digit of `n`. -/
def upperHexDigit (n : Nat) : Char := if n < 10 then Char.ofNat (48 + n) else Char.ofNat (55 + n)

/-- Whether a byte of a path component is encoded: all but visible ASCII, and the
characters with a meaning of their own in a path. -/
def needsEncoding (b : UInt8) : Bool :=
  b ≤ 0x20 || 0x7F ≤ b || b == 0x22 || b == 0x23 || b == 0x25 || b == 0x2F || b == 0x3C
    || b == 0x3E || b == 0x3F || b == 0x5C || b == 0x60 || b == 0x7B || b == 0x7D

/-- How a byte is written in a path. -/
def encodeOctet (b : UInt8) : List Char :=
  if needsEncoding b then ['%', upperHexDigit (b.toNat / 16), upperHexDigit (b.toNat % 16)]
  else [Char.ofNat b.toNat]

end CallExplorer.Uri
