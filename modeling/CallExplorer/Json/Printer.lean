/-
JSON texts.

Two layouts: the compact one that goes over the wire, with no blanks at all, and
the indented one for people, two spaces a level. Strings are escaped alike in
both: quotes, backslashes and controls, nothing else.
-/
import CallExplorer.Json.Value

namespace CallExplorer

namespace Json

-- ============================================ strings

/-- The lower-case hexadecimal digit of `n`. -/
def hexDigit (n : Nat) : Char := if n < 10 then Char.ofNat (48 + n) else Char.ofNat (87 + n)

/-- How one character is written inside a JSON string. -/
def escapedChar (c : Char) : List Char :=
  if c = '"' then ['\\', '"']
  else if c = '\\' then ['\\', '\\']
  else if c = '\n' then ['\\', 'n']
  else if c = '\r' then ['\\', 'r']
  else if c = '\t' then ['\\', 't']
  else if c.toNat = 8 then ['\\', 'b']
  else if c.toNat = 12 then ['\\', 'f']
  else if c.toNat < 32 then ['\\', 'u', '0', '0', hexDigit (c.toNat / 16), hexDigit (c.toNat % 16)]
  else [c]

/-- A text as a JSON string, quotes included. -/
def escaped (s : String) : String :=
  "\"" ++ String.ofList (s.toList.flatMap escapedChar) ++ "\""

/-- The text of a value that is no array and no object. -/
def leafText : Json → String
  | .null => "null"
  | .bool true => "true"
  | .bool false => "false"
  | .int n => Text.signedDecimal n
  | .float x => x.text
  | .text s => escaped s
  | .array _ => "[]"
  | .object _ => "\x7b\x7d"

-- ============================================ compact layout

mutual

/-- Appends the compact text of a value. -/
def compactOnto (out : String) : Json → String
  | .array items => compactItems (out ++ "[") items ++ "]"
  | .object members => compactMembers (out ++ "\x7b") members ++ "\x7d"
  | .null => out ++ leafText .null
  | .bool b => out ++ leafText (.bool b)
  | .int n => out ++ leafText (.int n)
  | .float x => out ++ leafText (.float x)
  | .text s => out ++ leafText (.text s)
termination_by structural v => v

/-- Appends items with commas between them. -/
def compactItems (out : String) : List Json → String
  | [] => out
  | [v] => v.compactOnto out
  | v :: rest => compactItems (v.compactOnto out ++ ",") rest
termination_by structural items => items

/-- Appends members with commas between them. -/
def compactMembers (out : String) : List (String × Json) → String
  | [] => out
  | [(k, v)] => v.compactOnto (out ++ escaped k ++ ":")
  | (k, v) :: rest => compactMembers (v.compactOnto (out ++ escaped k ++ ":") ++ ",") rest
termination_by structural members => members

end

/-- The compact text of a value. -/
def compact (v : Json) : String := v.compactOnto ""

-- ============================================ indented layout

/-- A line break and the indentation of a level. -/
def lineBreak (level : Nat) : String := String.ofList ('\n' :: List.replicate (2 * level) ' ')

mutual

/-- Appends the indented text of a value at a level; empty arrays and objects stay on one
line. -/
def indentedOnto (out : String) (level : Nat) : Json → String
  | .array [] => out ++ leafText (.array [])
  | .array items => indentedItems (out ++ "[") (level + 1) items ++ lineBreak level ++ "]"
  | .object [] => out ++ leafText (.object [])
  | .object members =>
    indentedMembers (out ++ "\x7b") (level + 1) members ++ lineBreak level ++ "\x7d"
  | .null => out ++ leafText .null
  | .bool b => out ++ leafText (.bool b)
  | .int n => out ++ leafText (.int n)
  | .float x => out ++ leafText (.float x)
  | .text s => out ++ leafText (.text s)
termination_by structural v => v

/-- Appends items, each on lines of its own. -/
def indentedItems (out : String) (level : Nat) : List Json → String
  | [] => out
  | [v] => v.indentedOnto (out ++ lineBreak level) level
  | v :: rest => indentedItems (v.indentedOnto (out ++ lineBreak level) level ++ ",") level rest
termination_by structural items => items

/-- Appends members, each on lines of its own. -/
def indentedMembers (out : String) (level : Nat) : List (String × Json) → String
  | [] => out
  | [(k, v)] => v.indentedOnto (out ++ lineBreak level ++ escaped k ++ ": ") level
  | (k, v) :: rest =>
    indentedMembers (v.indentedOnto (out ++ lineBreak level ++ escaped k ++ ": ") level ++ ",")
      level rest
termination_by structural members => members

end

/-- The text of a value with line breaks and indentation. -/
def indented (v : Json) : String := v.indentedOnto "" 0

-- ============================================ what goes before

mutual

/-- What was written before stays as it is. -/
theorem compactOnto_eq (out : String) : (v : Json) → v.compactOnto out = out ++ v.compact
  | .array items => by
    rw [compact, compactOnto, compactOnto, compactItems_eq, compactItems_eq ("" ++ "[")]
    simp [String.append_assoc]
  | .object members => by
    rw [compact, compactOnto, compactOnto, compactMembers_eq, compactMembers_eq ("" ++ _)]
    simp [String.append_assoc]
  | .null => by simp [compact, compactOnto]
  | .bool b => by simp [compact, compactOnto]
  | .int n => by simp [compact, compactOnto]
  | .float x => by simp [compact, compactOnto]
  | .text s => by simp [compact, compactOnto]

/-- The same for the items of an array. -/
theorem compactItems_eq (out : String) :
    (items : List Json) → compactItems out items = out ++ compactItems "" items
  | [] => by simp [compactItems]
  | [v] => by
    rw [compactItems, compactItems, compactOnto_eq out v, compactOnto_eq "" v]
    simp
  | v :: w :: rest => by
    have split (s : String) :
        compactItems s (v :: w :: rest) = compactItems (v.compactOnto s ++ ",") (w :: rest) := rfl
    rw [split out, split "", compactItems_eq (v.compactOnto out ++ ",") (w :: rest),
      compactItems_eq (v.compactOnto "" ++ ",") (w :: rest), compactOnto_eq out v,
      compactOnto_eq "" v]
    simp [String.append_assoc]

/-- The same for the members of an object. -/
theorem compactMembers_eq (out : String) :
    (members : List (String × Json)) → compactMembers out members = out ++ compactMembers "" members
  | [] => by simp [compactMembers]
  | [(k, v)] => by
    rw [compactMembers, compactMembers, compactOnto_eq (out ++ escaped k ++ ":") v,
      compactOnto_eq ("" ++ escaped k ++ ":") v]
    simp [String.append_assoc]
  | (k, v) :: m :: rest => by
    have split (s : String) :
        compactMembers s ((k, v) :: m :: rest)
          = compactMembers (v.compactOnto (s ++ escaped k ++ ":") ++ ",") (m :: rest) := rfl
    rw [split out, split "",
      compactMembers_eq (v.compactOnto (out ++ escaped k ++ ":") ++ ",") (m :: rest),
      compactMembers_eq (v.compactOnto ("" ++ escaped k ++ ":") ++ ",") (m :: rest),
      compactOnto_eq (out ++ escaped k ++ ":") v, compactOnto_eq ("" ++ escaped k ++ ":") v]
    simp [String.append_assoc]

end

end Json

end CallExplorer
