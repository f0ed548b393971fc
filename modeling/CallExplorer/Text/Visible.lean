/-
Text for terminals, without its control sequences.

A word of the command line is shown in complaints as a terminal would show it in
plain letters: sequences that would move the cursor or change colours are taken
out, and so are controls, except those that are blanks. A sequence begins with an
escape character. What comes next decides its kind, and the kind decides where it
ends. It may lack its end, and then takes the rest of the text with it.

A character beyond ASCII breaks a sequence off. Its first byte still belongs to the
sequence; the bytes that remain are no text any more, and each of them is replaced.
-/
namespace CallExplorer.Text

/-- Where in a control sequence a text stands. -/
inductive Sequence where
  /-- Outside. -/
  | outside
  /-- Right after the escape character. -/
  | start
  /-- In a short sequence, which ends with its next letter or digit. -/
  | short
  /-- Among the parameters of a terminal command, which ends with its name. -/
  | parameters
  /-- In a command for the operating system, which ends with a bell. -/
  | system
  /-- In a string for the device, which another sequence must end. -/
  | string
  deriving DecidableEq, Repr

namespace Sequence

/-- Whether a character is one of the controls that are blanks. -/
def isBlankControl (c : Char) : Bool :=
  c == '\t' || c == '\n' || c == '\x0C' || c == '\r'

/-- Whether a character has a place outside of sequences. -/
def isPlain (c : Char) : Bool := (0x20 ≤ c.toNat && c.toNat != 0x7F) || isBlankControl c

/-- The kind of sequence that a character stands for behind the escape character. -/
def kind (c : Char) : Sequence :=
  if c.toNat < 0x20 || c.toNat = 0x7F then .start
  else if c.toNat < 0x30 then .short
  else if c = '[' then .parameters
  else if c = ']' then .system
  else if c = 'P' || c = 'X' || c = '^' || c = '_' then .string
  else .outside

/-- Where a text stands after an ASCII character that is shown nowhere. -/
def after (c : Char) : Sequence → Sequence
  | .outside => .outside
  | .start => kind c
  | .short => if 0x30 ≤ c.toNat && c.toNat != 0x7F then .outside else .short
  | .parameters => if 0x40 ≤ c.toNat && c.toNat != 0x7F then .outside else .parameters
  | .system => if c.toNat = 7 then .outside else .system
  | .string => .string

/-- What is shown of the next character, and where the text stands after it. -/
def step (s : Sequence) (c : Char) : List Char × Sequence :=
  if c.toNat = 0x1B then ([], .start)
  else if s = .outside then (if isPlain c then [c] else [], .outside)
  else if c.toNat = 0x18 || c.toNat = 0x1A then ([], .outside)
  else if 0x80 ≤ c.toNat then (List.replicate (c.utf8Size - 1) '\uFFFD', .outside)
  else if isBlankControl c && s != .system && s != .string then ([c], .outside)
  else ([], s.after c)

end Sequence

/-- What is shown of characters that come in a sequence or outside. -/
def shown : Sequence → List Char → List Char
  | _, [] => []
  | s, c :: cs =>
    let (out, s) := s.step c
    out ++ shown s cs

/-- What a terminal shows of a text. -/
def visible (s : String) : String := String.ofList (shown .outside s.toList)

end CallExplorer.Text
