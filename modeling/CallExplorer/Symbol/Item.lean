/-
Symbols as language servers describe them.

An item stands for a symbol: what it is called, where its document is and which
stretch of it the symbol takes. Two items mean the same symbol when document and
range agree, whatever else they say. The opaque data belongs to the server, which
expects it back with every question about the item.
-/
import CallExplorer.Location

namespace CallExplorer

/-- A symbol of a call hierarchy. -/
structure Item where
  name : String
  kind : Int32
  tags : Option (List Int32)
  detail : Option String
  uri : Uri
  range : Range
  selectionRange : Range
  data : Option Json

namespace Item

/-- Whether two items mean the same symbol. -/
def sameSymbol (a b : Item) : Bool := a.uri = b.uri && a.range = b.range

/-- The tag of symbols that should no longer be used. -/
def deprecatedTag : Int32 := 1

/-- Whether the server marks the symbol as deprecated. -/
def isDeprecated (i : Item) : Bool := (i.tags.getD []).contains deprecatedTag

/-- The fields of an item. -/
def fields :
    Fields
      (String × Int32 × Option (List Int32) × Option String × Uri × Range × Range
        × Option Json × Unit)
      (Option String × Option Int32 × Option (Option (List Int32)) × Option (Option String)
        × Option Uri × Option Range × Option Range × Option (Option Json) × Unit) :=
  .cons (.required "name" .text) <|
  .cons (.required "kind" .i32) <|
  .cons (.optional "tags" (.list .i32)) <|
  .cons (.optional "detail" .text) <|
  .cons (.required "uri" .uri) <|
  .cons (.required "range" Range.decoder) <|
  .cons (.required "selectionRange" Range.decoder) <|
  .cons (.optional "data" .any) .nil

/-- Reads an item. -/
def decoder : Decoder Item :=
  (fields.decode "CallHierarchyItem").map
    fun (name, kind, tags, detail, uri, range, selectionRange, data, ()) =>
      ⟨name, kind, tags, detail, uri, range, selectionRange, data⟩

/-- An item as a value, whatever it does not say being left out. -/
def json (i : Item) : Json :=
  .object <|
    Json.optional "data" i.data
    ++ Json.optional "detail" (i.detail.map .text)
    ++ [("kind", .int i.kind.toInt), ("name", .text i.name), ("range", i.range.json),
        ("selectionRange", i.selectionRange.json)]
    ++ Json.optional "tags" (i.tags.map fun ts => .array (ts.map fun t => .int t.toInt))
    ++ [("uri", .text i.uri.text)]

end Item

end CallExplorer
