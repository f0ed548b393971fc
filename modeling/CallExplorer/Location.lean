/-
Places in documents.

Lines and columns count from 0 where programs talk to each other and from 1 where
people read them. Programs send values with the members in the order of their keys;
output has them in the order people think of them.
-/
import CallExplorer.Json.Record
import CallExplorer.Uri.Path

namespace CallExplorer

/-- A point in a document. -/
structure Position where
  line : UInt32
  character : UInt32
  deriving DecidableEq

/-- A stretch of a document. Nothing keeps the end from lying before the start. -/
structure Range where
  start : Position
  stop : Position
  deriving DecidableEq

/-- A stretch of a document that is named. -/
structure Location where
  uri : Uri
  range : Range
  deriving DecidableEq

namespace Position

/-- The fields of a position. -/
def fields : Fields (UInt32 × UInt32 × Unit) (Option UInt32 × Option UInt32 × Unit) :=
  .cons (.required "line" .u32) <| .cons (.required "character" .u32) .nil

/-- Reads a position. -/
def decoder : Decoder Position :=
  (fields.decode "Position").map fun (line, character, ()) => ⟨line, character⟩

/-- A position as a value, its members in the order of their keys. -/
def json (p : Position) : Json :=
  .object [("character", .int p.character.toNat), ("line", .int p.line.toNat)]

/-- A position as a value, the line before the column. -/
def printedJson (p : Position) : Json :=
  .object [("line", .int p.line.toNat), ("character", .int p.character.toNat)]

end Position

namespace Range

/-- The fields of a range. -/
def fields : Fields (Position × Position × Unit) (Option Position × Option Position × Unit) :=
  .cons (.required "start" Position.decoder) <| .cons (.required "end" Position.decoder) .nil

/-- Reads a range. -/
def decoder : Decoder Range :=
  (fields.decode "Range").map fun (start, stop, ()) => ⟨start, stop⟩

/-- A range as a value, its members in the order of their keys. -/
def json (r : Range) : Json := .object [("end", r.stop.json), ("start", r.start.json)]

/-- A range as a value, the start before the end. -/
def printedJson (r : Range) : Json :=
  .object [("start", r.start.printedJson), ("end", r.stop.printedJson)]

end Range

namespace Location

/-- The fields of a location. -/
def fields : Fields (Uri × Range × Unit) (Option Uri × Option Range × Unit) :=
  .cons (.required "uri" .uri) <| .cons (.required "range" Range.decoder) .nil

/-- Reads a location. -/
def decoder : Decoder Location :=
  (fields.decode "Location").map fun (uri, range, ()) => ⟨uri, range⟩

/-- A location as a value of the output. -/
def json (l : Location) : Json :=
  .object [("uri", .text l.uri.text), ("range", l.range.printedJson)]

/-- A count from 0 as people count; the greatest stays what it is. -/
def fromOne (n : UInt32) : Nat := min (n.toNat + 1) 4294967295

/-- Path, line and column of where a location starts, for people. -/
def display (l : Location) : String :=
  l.uri.toPath ++ ":" ++ Text.decimal (fromOne l.range.start.line) ++ ":"
    ++ Text.decimal (fromOne l.range.start.character)

end Location

end CallExplorer
