/-
Escapes in patterns.

A backslash takes away the meaning of a mark, or gives one to a letter. Marks,
blanks and controls stand for themselves behind it. Letters stand for a control, for
a place in the text, or for a class of characters; those with a number of digits
behind them name a character by its code point. Everything else is reserved.
-/
import CallExplorer.Pattern.Mode
import CallExplorer.Text.Hex

namespace CallExplorer.Pattern

/-- The least part of a pattern that matches something. -/
inductive Atom where
  /-- A character, which may be given as a byte. -/
  | character (c : Char) (asByte : Bool)
  /-- Digits, blanks or letters, or all but these. -/
  | shorthand (negated : Bool)
  /-- An edge of a word, or the lack of one. -/
  | edge
  /-- An end of the text. -/
  | border
  deriving DecidableEq, Repr

namespace Atom

/-- Whether an atom may stand in a pattern on its own. -/
def allowed (m : Mode) : Atom → Bool
  | .character c asByte => if m.unicode then !m.anyCase else !(asByte && 0x80 ≤ c.toNat)
  | .shorthand negated => !m.unicode && !negated
  | .edge => true
  | .border => true

/-- Whether an atom may stand in a class. -/
def allowedInClass (m : Mode) : Atom → Bool
  | .character c _ => if m.unicode then !m.anyCase else c.toNat < 0x80
  | .shorthand negated => !m.unicode && !negated
  | .edge => false
  | .border => false

end Atom

/-- Reads hexadecimal digits behind others that make up a number. -/
def readHex (m : Mode) : (digits : Nat) → (number : Nat) → List Char → Option (Nat × List Char)
  | 0, n, cs => some (n, cs)
  | _ + 1, _, [] => none
  | digits + 1, n, c :: rest =>
    (Text.hexDigit? c).bind fun d => readHex m digits (n * 16 + d) (m.skip rest)

/-- Reads the code point of a character. -/
def readCodePoint (m : Mode) (digits : Nat) (cs : List Char) : Option (Char × List Char) :=
  match readHex m digits 0 (m.skip cs) with
  | some (n, rest) => if n.isValidChar then some (Char.ofNat n, rest) else none
  | none => none

/-- The controls that have a letter. -/
def controlLetters : List (Char × Char) :=
  [('a', '\x07'), ('f', '\x0C'), ('t', '\t'), ('n', '\n'), ('r', '\r'), ('v', '\x0B')]

/-- Whether a character stands for itself behind a backslash. -/
def isEscapable (c : Char) : Bool := c.toNat < 0x80 && !c.isAlphanum && c != '<' && c != '>'

/-- Reads an escape, whose backslash is gone already. -/
def readEscape (m : Mode) : List Char → Option (Atom × List Char)
  | [] => none
  | c :: rest =>
    let point (digits : Nat) (asByte : Bool) : Option (Atom × List Char) :=
      (readCodePoint m digits rest).map fun (c, rest) => (.character c asByte, rest)
    if isEscapable c then some (.character c false, rest)
    else if c = 'x' then point 2 true
    else if c = 'u' then point 4 false
    else if c = 'U' then point 8 false
    else if c = 'd' || c = 's' || c = 'w' then some (.shorthand false, rest)
    else if c = 'D' || c = 'S' || c = 'W' then some (.shorthand true, rest)
    else if c = 'b' || c = 'B' || c = '<' || c = '>' then some (.edge, rest)
    else if c = 'A' || c = 'z' then some (.border, rest)
    else (controlLetters.lookup c).map fun control => (.character control false, rest)

end CallExplorer.Pattern
