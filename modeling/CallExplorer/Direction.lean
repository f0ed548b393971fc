/-
The two directions of exploration.

A tree is unfolded towards callees or towards callers. The direction is named on
the command line without regard to case, and by its exact name in JSON, where it
may also stand as the only key of an object, over `null`.
-/
import CallExplorer.Json.Decoder
import CallExplorer.Text.Blank

namespace CallExplorer

/-- Which calls are followed when a node is expanded. -/
inductive Direction where
  /-- From a symbol to those it calls. -/
  | outgoing
  /-- From a symbol to those that call it. -/
  | incoming
  deriving DecidableEq, Repr

namespace Direction

/-- Callers are what one asks for unless told otherwise. -/
instance : Inhabited Direction := ⟨.incoming⟩

/-- The other direction. -/
def flip : Direction → Direction
  | .outgoing => .incoming
  | .incoming => .outgoing

/-- The name of the direction, which is also its tag in node identities. -/
def tag : Direction → String
  | .outgoing => "outgoing"
  | .incoming => "incoming"

/-- Turning twice is not turning. -/
@[simp] theorem flip_flip (d : Direction) : d.flip.flip = d := by cases d <;> rfl

/-- Different directions have different names. -/
theorem tag_injective {a b : Direction} (h : a.tag = b.tag) : a = b := by
  cases a <;> cases b <;> first | rfl | exact absurd h (by decide)

/-- The direction a name stands for, in any case. -/
def ofName? (name : String) : Option Direction :=
  if Text.eqIgnoreCase name "outgoing" then some .outgoing
  else if Text.eqIgnoreCase name "incoming" then some .incoming
  else none

-- ============================================ JSON

/-- The direction a JSON string stands for. -/
def ofVariant (name : String) : Except DecodeError Direction :=
  if name = "outgoing" then .ok .outgoing
  else if name = "incoming" then .ok .incoming
  else .error (.unknownVariant name ["outgoing", "incoming"])

/-- Reads a name after its opening quote as a direction, and gives what follows. -/
def fromName (bs : List UInt8) : Except DecodeError (Direction × List UInt8) := do
  match Doc.readText .start bs with
  | .error f => .error (.malformed f.whenRead)
  | .ok (name, rest) => .ok (← ofVariant (← Doc.ofSyntax name), rest)

/-- Reads what an object holds after its key, and gives what follows the object. -/
def fromMember (fuel : Nat) (direction : Direction) (bs : List UInt8) :
    Except DecodeError (Direction × List UInt8) := do
  match Doc.skipSpace bs with
  | [] => .error (.malformed .endOfObject)
  | b :: rest =>
    if b ≠ 0x3A then .error (.malformed .expectedColon)
    else
      let (value, left) := Doc.readValue fuel rest
      Decoder.unit .value value
      match Doc.skipSpace (left.getD []) with
      | [] => .error (.malformed .endOfObject)
      | b :: rest =>
        if b = 0x7D then .ok (direction, rest) else .error (.malformed .expectedValue)

/-- Reads the rest of an object with a direction for its key, and gives what follows. -/
def fromObject (fuel : Nat) (bs : List UInt8) : Except DecodeError (Direction × List UInt8) := do
  match Doc.skipSpace bs with
  | [] => .error (.malformed .endOfValue)
  | b :: rest =>
    if b = 0x22 then
      let (direction, rest) ← fromName rest
      fromMember fuel direction rest
    else if b = 0x7D then .error (.malformed .expectedValue)
    else .error (.malformed .keyNotText)

/-- The direction a JSON text stands for. -/
def ofJsonText (text : String) : Except DecodeError Direction := do
  let bs := Text.bytes text
  let fuel := 2 * bs.length + 1
  let (direction, rest) ←
    match Doc.skipSpace bs with
    | [] => .error (.malformed .endOfValue)
    | b :: rest =>
      if b = 0x7B then fromObject fuel rest
      else if b = 0x22 then fromName rest
      else .error (.malformed .expectedValue)
  if (Doc.skipSpace rest).isEmpty then .ok direction
  else .error (.malformed .trailingCharacters)

/-- The JSON text of a direction. -/
def json (d : Direction) : Json := .text d.tag

end Direction

end CallExplorer
