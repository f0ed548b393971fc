/-
Call graphs as JSON.

A fixture gives every item a key. Roots and calls name items by their keys, so
one item can stand in many places, and every key that is named must be there.
The first unknown key is reported: roots come first, and then the caller of each
call before its callee.
-/
import CallExplorer.Graph.Basic

namespace CallExplorer

/-- A call between keyed items. -/
structure KeyedCall where
  caller : String
  callee : String
  sites : List Range

namespace KeyedCall

/-- The fields of a keyed call. -/
def fields :
    Fields (String × String × List Range × Unit)
      (Option String × Option String × Option (List Range) × Unit) :=
  .cons (.required "caller" .text) <|
  .cons (.required "callee" .text) <|
  .cons (.defaulted "fromRanges" (.list Range.decoder) []) .nil

/-- Reads a keyed call. -/
def decoder : Decoder KeyedCall :=
  (fields.decode "FixtureCall").map fun (caller, callee, sites, ()) => ⟨caller, callee, sites⟩

end KeyedCall

/-- A call graph by keys. -/
structure Fixture where
  items : List (String × Item)
  roots : List String
  calls : List KeyedCall

namespace Fixture

/-- The fields of a fixture. -/
def fields :
    Fields (List (String × Item) × List String × List KeyedCall × Unit)
      (Option (List (String × Item)) × Option (List String) × Option (List KeyedCall) × Unit) :=
  .cons (.required "items" (.dictionary Item.decoder)) <|
  .cons (.required "roots" (.list .text)) <|
  .cons (.defaulted "calls" (.list KeyedCall.decoder) []) .nil

/-- Reads a fixture. -/
def decoder : Decoder Fixture :=
  (fields.decode "CallGraphFixture").map fun (items, roots, calls, ()) => ⟨items, roots, calls⟩

/-- The item with the given key. -/
def item (f : Fixture) (key : String) : Except FixtureError Item :=
  match f.items.find? (·.1 == key) with
  | some (_, i) => .ok i
  | none => .error (.unknownItem key)

/-- The items with the given keys. -/
def itemsOf (f : Fixture) : List String → Except FixtureError (List Item)
  | [] => .ok []
  | key :: rest => do
    let i ← f.item key
    let is ← f.itemsOf rest
    .ok (i :: is)

/-- Calls with their items in place of the keys. -/
def callsOf (f : Fixture) : List KeyedCall → Except FixtureError (List Call)
  | [] => .ok []
  | c :: rest => do
    let caller ← f.item c.caller
    let callee ← f.item c.callee
    let cs ← f.callsOf rest
    .ok (⟨caller, callee, c.sites⟩ :: cs)

/-- The call graph of a fixture. -/
def graph (f : Fixture) : Except FixtureError CallGraph := do
  let roots ← f.itemsOf f.roots
  let calls ← f.callsOf f.calls
  .ok ⟨roots, calls⟩

/-- Reads a fixture from a JSON text. -/
def ofText (text : String) : Except FixtureError Fixture :=
  (decodeDocument decoder (Text.bytes text)).mapError .malformed

end Fixture

namespace CallGraph

/-- Reads a call graph from the JSON text of a fixture. -/
def ofText (text : String) : Except Failure CallGraph :=
  ((Fixture.ofText text).bind Fixture.graph).mapError .fixture

/-- Reads a call graph from a file. -/
def load (read : FileReader) (path : String) : Except Failure CallGraph := do
  let text ← (read.text path).mapError (.unreadable path)
  ofText text

end CallGraph

end CallExplorer
