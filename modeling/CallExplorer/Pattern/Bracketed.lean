/-
Classes of characters in patterns.

A class stands between brackets: characters, ranges, shorthands, named classes and
further classes, with operators between groups of these. In front of all a
circumflex turns the class round, and there dashes stand for themselves, and so does
a closing bracket.

Of a well-formed class only its depth is kept, which counts the classes, the groups
of two and more members, and the operators around the innermost member.
-/
import CallExplorer.Pattern.Escape

namespace CallExplorer.Pattern

/-- The depth of parts that stand side by side. -/
def depthOfAll : List Nat → Nat
  | [] => 0
  | [d] => d
  | d :: ds => 1 + ds.foldl Nat.max d

/-- A class that is not closed yet: the depth of what stands before the last operator, and
the depths of the members behind it, the last first. In front there are at most dashes. -/
structure OpenClass where
  front : Bool := true
  before : Option Nat := none
  members : List Nat := []
  deriving DecidableEq, Repr

namespace OpenClass

/-- Adds a dash in front. -/
def addDash (k : OpenClass) : OpenClass := { k with members := 0 :: k.members }

/-- Adds a member. -/
def add (k : OpenClass) (depth : Nat) : OpenClass :=
  { k with front := false, members := depth :: k.members }

/-- The depth of all that the class has so far. -/
def depth (k : OpenClass) : Nat :=
  match k.before with
  | none => depthOfAll k.members
  | some d => 1 + Nat.max d (depthOfAll k.members)

/-- Adds an operator. -/
def operate (k : OpenClass) : OpenClass := { front := false, before := some k.depth }

end OpenClass

/-- The classes that have a name. -/
def classNames : List String :=
  ["alnum", "alpha", "ascii", "blank", "cntrl", "digit", "graph", "lower", "print", "punct",
   "space", "upper", "word", "xdigit"]

/-- Reads a named class, whose opening bracket is gone already: whether it is turned round,
and what is left. -/
def readNamedClass : List Char → Option (Bool × List Char)
  | ':' :: rest =>
    let negated := rest.head? = some '^'
    let rest := if negated then rest.drop 1 else rest
    match rest.dropWhile (· != ':') with
    | ':' :: ']' :: left =>
      if classNames.contains (String.ofList (rest.takeWhile (· != ':'))) then some (negated, left)
      else none
    | _ => none
  | _ => none

/-- Whether a plain character, or a named class, may stand in a class. -/
def mayList (m : Mode) : Bool := !m.unicode || !m.anyCase

/-- Whether a class may be turned round. -/
def mayNegate (m : Mode) (negated : Bool) : Bool := m.unicode || !negated

/-- Passes over the opening bracket of a class, which is gone already, and its circumflex. -/
def enterClass (m : Mode) (cs : List Char) : Option (List Char) :=
  match m.skip cs with
  | '^' :: rest => if mayNegate m true then some rest else none
  | rest => some rest

/-- Reads a character or an escape in a class. -/
def readClassAtom (m : Mode) : List Char → Option (Atom × List Char)
  | [] => none
  | '\\' :: rest => readEscape m rest
  | c :: rest => some (.character c false, rest)

/-- The code point of an atom that may be an end of a range. -/
def Atom.point? : Atom → Option Nat
  | .character c _ => some c.toNat
  | _ => none

/-- Passes over a range or a single member of a class. A dash makes a range, unless the class
is closed behind it or another dash follows. -/
def passMember (m : Mode) (cs : List Char) : Option (List Char) := do
  let (low, rest) ← readClassAtom m cs
  let rest := m.skip rest
  let single := if low.allowedInClass m then some rest else none
  match rest with
  | '-' :: after =>
    if m.peek after = some ']' || m.peek after = some '-' then single
    else
      let (high, rest) ← readClassAtom m (m.skip after)
      let a ← low.point?
      let b ← high.point?
      if a ≤ b && low.allowedInClass m && high.allowedInClass m then some rest else none
  | _ => single

/-- Reads the rest of a class that stands in others: its depth, and what is left. -/
def readClass (m : Mode) :
    (fuel : Nat) → OpenClass → (outer : List OpenClass) → List Char → Option (Nat × List Char)
  | 0, _, _, _ => none
  | fuel + 1, k, outer, cs =>
    match m.skip cs with
    | [] => none
    | c :: rest =>
      if k.front && c = '-' then
        if mayList m then readClass m fuel k.addDash outer rest else none
      else if k.front && k.members.isEmpty && c = ']' then
        if mayList m then readClass m fuel (k.add 0) outer rest else none
      else if c = ']' then
        match outer with
        | [] => some (1 + k.depth, rest)
        | around :: outer => readClass m fuel (around.add (1 + k.depth)) outer rest
      else if c = '[' then
        match readNamedClass rest with
        | some (negated, rest) =>
          if mayList m && mayNegate m negated then readClass m fuel (k.add 0) outer rest else none
        | none => (enterClass m rest).bind fun rest => readClass m fuel {} (k :: outer) rest
      else if (c = '&' || c = '-' || c = '~') && rest.head? = some c then
        readClass m fuel k.operate outer (rest.drop 1)
      else
        (passMember m (c :: rest)).bind fun rest => readClass m fuel (k.add 0) outer rest

/-- Reads a class, whose opening bracket is gone already. -/
def readBracketed (m : Mode) (cs : List Char) : Option (Nat × List Char) :=
  (enterClass m cs).bind fun rest => readClass m (cs.length + 1) {} [] rest

end CallExplorer.Pattern
