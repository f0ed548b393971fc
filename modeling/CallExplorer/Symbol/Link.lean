/-
Calls between symbols, seen from one end.

Asked about a symbol, a provider answers with links: the symbol at the other end
of each call, and the call sites. The sites lie in the document of the caller,
whichever end was asked about.
-/
import CallExplorer.Direction
import CallExplorer.Symbol.Item

namespace CallExplorer

/-- The other end of a call, with the call sites. -/
structure Link where
  item : Item
  sites : List Range

namespace Link

/-- The key under which the other end is written. -/
def endKey : Direction → String
  | .outgoing => "to"
  | .incoming => "from"

/-- The name of the record for a link in a direction. -/
def recordName : Direction → String
  | .outgoing => "CallHierarchyOutgoingCall"
  | .incoming => "CallHierarchyIncomingCall"

/-- The fields of a link. -/
def fields (d : Direction) :
    Fields (Item × List Range × Unit) (Option Item × Option (List Range) × Unit) :=
  .cons (.required (endKey d) Item.decoder) <|
  .cons (.required "fromRanges" (.list Range.decoder)) .nil

/-- Reads a link in a direction. -/
def decoder (d : Direction) : Decoder Link :=
  ((fields d).decode (recordName d)).map fun (item, sites, ()) => ⟨item, sites⟩

/-- A link in a direction as a value. -/
def json (d : Direction) (l : Link) : Json :=
  .object [(endKey d, l.item.json), ("fromRanges", .array (l.sites.map Range.json))]

/-- Where the call sites of a link are, when it was found from `origin`: in the document
of the caller. -/
def locations (d : Direction) (origin : Item) (l : Link) : List Location :=
  let caller :=
    match d with
    | .outgoing => origin
    | .incoming => l.item
  l.sites.map fun range => ⟨caller.uri, range⟩

end Link

end CallExplorer
