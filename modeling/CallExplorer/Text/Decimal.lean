/-
Whole numbers as decimal text.

Numbers on the command line and in message headers may carry a sign and leading
zeros. They are read from the left, and the first character that is wrong or
takes the value out of bounds decides which complaint is made.
-/
namespace CallExplorer.Text

/-- Why a text is not a whole number in bounds. -/
inductive NumberError where
  | empty
  | invalidDigit
  | tooLarge
  | tooSmall
  deriving DecidableEq, Repr

/-- The complaint in words. -/
def NumberError.message : NumberError → String
  | .empty => "cannot parse integer from empty string"
  | .invalidDigit => "invalid digit found in string"
  | .tooLarge => "number too large to fit in target type"
  | .tooSmall => "number too small to fit in target type"

/-- The value of a decimal digit. -/
def digit? (c : Char) : Option Nat :=
  if c.isDigit then some (c.toNat - '0'.toNat) else none

/-- Appends the digits `cs` to `n`, stopping at the first that is none or that
takes the value past `limit`; the latter is `beyond`. -/
def appendDigits (limit : Nat) (beyond : NumberError) : Nat → List Char → Except NumberError Nat
  | n, [] => .ok n
  | n, c :: cs =>
    match digit? c with
    | none => .error .invalidDigit
    | some d =>
      if n * 10 + d ≤ limit then appendDigits limit beyond (n * 10 + d) cs else .error beyond

/-- The greatest number of 64 bits. -/
def max64 : Nat := 18446744073709551615

/-- Reads a number from 0 to `limit`; a plus sign may lead. -/
def readNat (limit : Nat) : List Char → Except NumberError Nat
  | [] => .error .empty
  | ['+'] => .error .invalidDigit
  | '+' :: cs => appendDigits limit .tooLarge 0 cs
  | cs => appendDigits limit .tooLarge 0 cs

/-- Reads a number from -2^63 to 2^63-1; a sign may lead. -/
def readInt64 : List Char → Except NumberError Int
  | [] => .error .empty
  | ['+'] => .error .invalidDigit
  | ['-'] => .error .invalidDigit
  | '+' :: cs => (appendDigits 9223372036854775807 .tooLarge 0 cs).map Int.ofNat
  | '-' :: cs => (appendDigits 9223372036854775808 .tooSmall 0 cs).map fun n => -(n : Int)
  | cs => (appendDigits 9223372036854775807 .tooLarge 0 cs).map Int.ofNat

/-- The decimal text of a natural number. -/
def decimal (n : Nat) : String := String.ofList (Nat.toDigits 10 n)

/-- The decimal text of an integer. -/
def signedDecimal : Int → String
  | .ofNat n => decimal n
  | .negSucc n => "-" ++ decimal (n + 1)

end CallExplorer.Text
