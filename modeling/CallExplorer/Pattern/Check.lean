/-
Well-formed patterns.

A pattern is a regular expression: alternatives of parts that stand one after the
other. A part is a character, a class, a place in the text or a group, and may be
repeated. A group may have a name, or flags for what is in it; flags alone between
parentheses hold for the rest of the group they stand in. There is no looking
around, and no counted repetition, since a brace ends the pattern.

The reader keeps of each part no more than its depth, which has a limit. Besides, it
remembers whether the edges of a word are asked for in the sense of Unicode: such a
pattern is well formed, but nothing can run it.
-/
import CallExplorer.Pattern.Bracketed
import CallExplorer.Text.Alphanumeric

namespace CallExplorer

namespace Pattern

-- ============================================ groups

/-- A group that is not closed yet, in the mode of the place reached. Parts come the last
first; flags that stand alone are parts without a depth. -/
structure OpenGroup where
  mode : Mode := {}
  parts : List (Option Nat) := []
  /-- The depths of the alternatives that are complete. -/
  alternatives : List Nat := []

namespace OpenGroup

/-- Adds a part. -/
def add (g : OpenGroup) (depth : Nat) : OpenGroup := { g with parts := some depth :: g.parts }

/-- The depth of the current alternative. -/
def partsDepth (g : OpenGroup) : Nat := depthOfAll (g.parts.map (·.getD 0))

/-- Begins another alternative. -/
def alternate (g : OpenGroup) : OpenGroup :=
  { g with parts := [], alternatives := g.partsDepth :: g.alternatives }

/-- The depth of all that the group has so far. -/
def depth (g : OpenGroup) : Nat := depthOfAll (g.partsDepth :: g.alternatives)

/-- Repeats the last part, if there is one that can be repeated. -/
def repeated (g : OpenGroup) : Option OpenGroup :=
  match g.parts with
  | some d :: parts => some { g with parts := some (1 + d) :: parts }
  | _ => none

end OpenGroup

/-- What was read of a pattern so far. -/
structure Reading where
  group : OpenGroup := {}
  outer : List OpenGroup := []
  names : List (List Char) := []
  /-- Whether an edge of a word in the sense of Unicode was asked for. -/
  edges : Bool := false

namespace Reading

/-- Adds a part. -/
def add (r : Reading) (depth : Nat) : Reading := { r with group := r.group.add depth }

/-- Adds an atom, if it may stand here. -/
def addAtom (r : Reading) (a : Atom) : Option Reading :=
  if a.allowed r.group.mode then
    some { r.add 0 with edges := r.edges || (a = .edge && r.group.mode.unicode) }
  else none

/-- Opens a group. -/
def enter (r : Reading) (m : Mode) : Reading :=
  { r with group := { mode := m }, outer := r.group :: r.outer }

/-- Closes a group, if one is open. -/
def leave (r : Reading) : Option Reading :=
  match r.outer with
  | [] => none
  | g :: outer => some { r with group := g.add (1 + r.group.depth), outer := outer }

/-- Lets flags hold for the rest of the group. -/
def setMode (r : Reading) (m : Mode) : Reading :=
  { r with group := { r.group with mode := m, parts := none :: r.group.parts } }

end Reading

-- ============================================ what opens a group

/-- Whether a text may name a group. -/
def isGroupName : List Char → Bool
  | [] => false
  | c :: cs =>
    (c == '_' || Text.isAlphabetic c)
      && cs.all fun c => c == '_' || c == '.' || c == '[' || c == ']' || Text.isAlphanumeric c

/-- Opens a group whose name begins here and is not taken. -/
def readNamedGroup (r : Reading) (cs : List Char) : Option (Reading × List Char) :=
  let name := cs.takeWhile (· != '>')
  match cs.dropWhile (· != '>') with
  | [] => none
  | _ :: rest =>
    if isGroupName name && !r.names.contains name then
      some ({ r with names := name :: r.names }.enter r.group.mode, rest)
    else none

/-- Reads flags, and opens a group in their mode, if a colon comes behind them. -/
def readFlagged (r : Reading) (cs : List Char) : Option (Reading × List Char) :=
  match r.group.mode.readFlags [] cs with
  | some (m, _, ':' :: rest) => some (r.enter m, rest)
  | some (m, true, _ :: rest) => some (r.setMode m, rest)
  | _ => none

/-- Reads what opens a group, behind the parenthesis. -/
def readGroup (r : Reading) (cs : List Char) : Option (Reading × List Char) :=
  match r.group.mode.skip cs with
  | '?' :: '=' :: _ => none
  | '?' :: '!' :: _ => none
  | '?' :: '<' :: '=' :: _ => none
  | '?' :: '<' :: '!' :: _ => none
  | '?' :: 'P' :: '<' :: rest => readNamedGroup r rest
  | '?' :: '<' :: rest => readNamedGroup r rest
  | '?' :: rest => readFlagged r rest
  | rest => some (r.enter r.group.mode, rest)

-- ============================================ the whole

/-- Reads the next part of a pattern, which is not at its end. -/
def step (r : Reading) (c : Char) (rest : List Char) : Option (Reading × List Char) :=
  if c = '(' then readGroup r rest
  else if c = ')' then r.leave.map (·, rest)
  else if c = '|' then some ({ r with group := r.group.alternate }, rest)
  else if c = '[' then
    (readBracketed r.group.mode rest).map fun (depth, rest) => (r.add depth, rest)
  else if c = '?' || c = '*' || c = '+' then
    let rest := if rest.head? = some '?' then rest.drop 1 else rest
    r.group.repeated.map fun g => ({ r with group := g }, rest)
  else if c = '\x7b' then none
  else if c = '\\' then
    (readEscape r.group.mode rest).bind fun (a, rest) => (r.addAtom a).map (·, rest)
  else if c = '.' then if r.group.mode.unicode then some (r.add 0, rest) else none
  else if c = '^' || c = '$' then some (r.add 0, rest)
  else (r.addAtom (.character c false)).map (·, rest)

/-- Reads a pattern to its end. -/
def readAll : (fuel : Nat) → Reading → List Char → Option Reading
  | 0, _, _ => none
  | fuel + 1, r, cs =>
    match r.group.mode.skip cs with
    | [] => some r
    | c :: rest => (step r c rest).bind fun (r, rest) => readAll fuel r rest

/-- How deep a pattern may be. -/
def maxDepth : Nat := 250

/-- What is wrong with a pattern. -/
inductive Trouble where
  | malformed
  /-- The edges of a word in the sense of Unicode are asked for. -/
  | edges
  deriving DecidableEq, Repr

/-- Checks a pattern. Every step takes at least one character. -/
def check (cs : List Char) : Except Trouble Unit :=
  match readAll (cs.length + 1) {} cs with
  | none => .error .malformed
  | some r =>
    if !r.outer.isEmpty || maxDepth < r.group.depth then .error .malformed
    else if r.edges then .error .edges
    else .ok ()

end Pattern

end CallExplorer
