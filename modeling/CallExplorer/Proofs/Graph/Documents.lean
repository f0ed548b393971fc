/-
Fixtures from any of their documents.

A fixture may have been written by hand or by some program: with the members of its objects in any
order, with notes that nobody here knows of, with what is missing left out or `null`. All of that is
in how its parts are written, one part after the other (`Position.writing` up to `Fixture.writing`).
Each part is read, so the fixture is, and its call graph or the complaint about it is the one the
fixture has.

What is written is told by what the members of an object say, one structure for each record. Members
are known by their names, and names that are not mentioned may stand anywhere and more than once.
Only in the items of a fixture every name is a key, and in the data of an item no name is unknown.
-/
import CallExplorer.Graph.Fixture
import CallExplorer.Proofs.Json.Printing
import CallExplorer.Proofs.Json.Writings

namespace CallExplorer

open Writing (Member MemberOr)

-- ============================================ places

/-- What the members of an object say of a position. -/
structure Position.SaidBy (p : Position) (es : List (String × Doc .value)) : Prop where
  line : Member (.whole fun n => n.toNat) es "line" p.line
  character : Member (.whole fun n => n.toNat) es "character" p.character

/-- Positions as documents. -/
def Position.writing : Writing Position := .object SaidBy

theorem Position.reads : decoder.Reads writing := by
  apply Fields.reads_object "Position" (by decide)
  intro p es inner h hinner
  refine ⟨(p.line, p.character, ()), rfl, ?line, ?character, trivial⟩
  case line => exact Field.has_of_member Decoder.reads_u32 hinner h.line
  case character => exact Field.has_of_member Decoder.reads_u32 hinner h.character

/-- What the members of an object say of a range. -/
structure Range.SaidBy (r : Range) (es : List (String × Doc .value)) : Prop where
  start : Member Position.writing es "start" r.start
  stop : Member Position.writing es "end" r.stop

/-- Ranges as documents. -/
def Range.writing : Writing Range := .object SaidBy

theorem Range.reads : decoder.Reads writing := by
  apply Fields.reads_object "Range" (by decide)
  intro r es inner h hinner
  refine ⟨(r.start, r.stop, ()), rfl, ?start, ?stop, trivial⟩
  case start => exact Field.has_of_member Position.reads hinner h.start
  case stop => exact Field.has_of_member Position.reads hinner h.stop

-- ============================================ items

/-- What the members of an object say of an item. -/
structure Item.SaidBy (i : Item) (es : List (String × Doc .value)) : Prop where
  name : Member .text es "name" i.name
  kind : Member (.whole Int32.toInt) es "kind" i.kind
  tags : MemberOr (Writing.orNull (.list (.whole Int32.toInt))) es "tags" none i.tags
  detail : MemberOr (Writing.orNull .text) es "detail" none i.detail
  uri : Member .uri es "uri" i.uri
  range : Member Range.writing es "range" i.range
  selectionRange : Member Range.writing es "selectionRange" i.selectionRange
  data : MemberOr (Writing.orNull .data) es "data" none i.data

/-- Items as documents. -/
def Item.writing : Writing Item := .object SaidBy

theorem Item.reads : decoder.Reads writing := by
  apply Fields.reads_object "CallHierarchyItem" (by decide)
  intro i es inner h hinner
  refine ⟨(i.name, i.kind, i.tags, i.detail, i.uri, i.range, i.selectionRange, i.data, ()), rfl,
    ?name, ?kind, ?tags, ?detail, ?uri, ?range, ?selectionRange, ?data, trivial⟩
  case name => exact Field.has_of_member Decoder.reads_text hinner h.name
  case kind => exact Field.has_of_member Decoder.reads_i32 hinner h.kind
  case tags => exact Field.has_of_memberOr Decoder.reads_i32.list.option hinner rfl h.tags
  case detail => exact Field.has_of_memberOr Decoder.reads_text.option hinner rfl h.detail
  case uri => exact Field.has_of_member Decoder.reads_uri hinner h.uri
  case range => exact Field.has_of_member Range.reads hinner h.range
  case selectionRange => exact Field.has_of_member Range.reads hinner h.selectionRange
  case data => exact Field.has_of_memberOr Decoder.reads_any.option hinner rfl h.data

/-- Values written without blanks are texts, if they can be written and read at all. -/
theorem Writing.isText_compact {α : Type} {W : Writing α} {x : α} {v : Json} (h : W x (.ofJson v))
    (hdepth : v.depth ≤ maxLevels) (hwhole : v.isWhole = true) : W.IsText x v.compact := by
  refine ⟨.ofJson v, _, [], h, ?_, Doc.written_compact v hwhole, nofun, (List.append_nil _).symm⟩
  rw [Doc.depth_ofJson]
  exact hdepth

-- ============================================ fixtures

/-- What the members of an object say of a keyed call. -/
structure KeyedCall.SaidBy (c : KeyedCall) (es : List (String × Doc .value)) : Prop where
  caller : Member .text es "caller" c.caller
  callee : Member .text es "callee" c.callee
  sites : MemberOr (.list Range.writing) es "fromRanges" [] c.sites

/-- Keyed calls as documents. -/
def KeyedCall.writing : Writing KeyedCall := .object SaidBy

theorem KeyedCall.reads : decoder.Reads writing := by
  apply Fields.reads_object "FixtureCall" (by decide)
  intro c es inner h hinner
  refine ⟨(c.caller, c.callee, c.sites, ()), rfl, ?caller, ?callee, ?sites, trivial⟩
  case caller => exact Field.has_of_member Decoder.reads_text hinner h.caller
  case callee => exact Field.has_of_member Decoder.reads_text hinner h.callee
  case sites => exact Field.has_of_memberOr Range.reads.list hinner rfl h.sites

namespace Fixture

/-- What the members of an object say of a fixture. -/
structure SaidBy (f : Fixture) (es : List (String × Doc .value)) : Prop where
  items : Member (.dictionary Item.writing) es "items" f.items
  roots : Member (.list .text) es "roots" f.roots
  calls : MemberOr (.list KeyedCall.writing) es "calls" [] f.calls

/-- Fixtures as documents. -/
def writing : Writing Fixture := .object SaidBy

theorem reads : decoder.Reads writing := by
  apply Fields.reads_object "CallGraphFixture" (by decide)
  intro f es inner h hinner
  refine ⟨(f.items, f.roots, f.calls, ()), rfl, ?items, ?roots, ?calls, trivial⟩
  case items => exact Field.has_of_member Item.reads.dictionary hinner h.items
  case roots => exact Field.has_of_member Decoder.reads_text.list hinner h.roots
  case calls => exact Field.has_of_memberOr KeyedCall.reads.list hinner rfl h.calls

end Fixture

/-- No text is a text of two fixtures. -/
theorem Fixture.isText_unique {f g : Fixture} {text : String} (hf : writing.IsText f text)
    (hg : writing.IsText g text) : f = g := by
  have hsame := (reads.decodeText hf).symm.trans (reads.decodeText hg)
  injection hsame

/-- Every text of a fixture is read as that fixture. -/
theorem Fixture.read_of_isText {f : Fixture} {text : String} (h : writing.IsText f text) :
    ofText text = .ok f := by
  rw [ofText, decodeDocument_eq_ok.2 (reads.decodeText h)]
  rfl

/-- Every text of a fixture is read as that fixture, and brings the call graph of the fixture, or
the complaint that it has none. -/
theorem CallGraph.ofText_of_isText {f : Fixture} {text : String}
    (h : Fixture.writing.IsText f text) :
    Fixture.ofText text = .ok f ∧ CallGraph.ofText text = f.graph.mapError .fixture := by
  have hfixture := Fixture.read_of_isText h
  refine ⟨hfixture, ?_⟩
  rw [ofText, hfixture]
  rfl

/-- The call graph of a fixture is loaded from every file with a text of the fixture. -/
theorem CallGraph.load_of_isText {read : FileReader} {path text : String} {f : Fixture}
    {g : CallGraph} (hfile : read path = .ok (Text.bytes text))
    (htext : Fixture.writing.IsText f text) (hgraph : f.graph = .ok g) :
    load read path = .ok g := by
  have hread : read.text path = .ok text := by
    simp only [FileReader.text, hfile, bind, Except.bind, Text.ofBytes?_bytes]
  rw [load, hread]
  show ofText text = _
  rw [ofText, Fixture.read_of_isText htext]
  show f.graph.mapError _ = _
  rw [hgraph]
  rfl

-- ============================================ a fixture in a hand of its own

namespace Sketch

/-- A range of one line, written with its end first and with a note. -/
def range : Json :=
  .object [("end", .object [("character", .int 9), ("line", .int 4)]), ("note", .null),
    ("start", .object [("line", .int 4), ("character", .int 0)])]

/-- The range that is meant. -/
def readRange : Range := ⟨⟨4, 0⟩, ⟨4, 9⟩⟩

/-- A symbol whose data are out of order. What it does not say is `null` once and left out once. -/
def symbol : Json :=
  .object [("uri", .text "file:///a.rs"), ("name", .text "f"), ("detail", .null),
    ("data", .object [("b", .array [.int (-1)]), ("a", .bool true)]), ("kind", .int 12),
    ("selectionRange", range), ("containerName", .text "m"), ("range", range)]

/-- The symbol that is meant. -/
def readSymbol : Item :=
  ⟨"f", 12, none, none, ⟨"file:///a.rs", by rfl⟩, readRange, readRange,
    some (.object [("a", .bool true), ("b", .array [.int (-1)])])⟩

/-- Two keys out of order, a call without call sites, and members that stand for nothing. -/
def document : Json :=
  .object [("calls", .array [.object [("callee", .text "v"), ("weight", .int 3),
      ("caller", .text "u")]]),
    ("version", .int 1), ("items", .object [("v", symbol), ("u", symbol)]),
    ("version", .array [.int 2]), ("roots", .array [.text "v", .text "u"])]

/-- The fixture that is meant. -/
def fixture : Fixture :=
  ⟨[("u", readSymbol), ("v", readSymbol)], ["v", "u"], [⟨"u", "v", []⟩]⟩

theorem writing_range : Range.writing readRange (.ofJson range) := by
  refine Writing.object_ofJson ⟨⟨_, rfl, ?_⟩, ⟨_, rfl, ?_⟩⟩
  · exact Writing.object_ofJson ⟨⟨_, rfl, rfl⟩, ⟨_, rfl, rfl⟩⟩
  · exact Writing.object_ofJson ⟨⟨_, rfl, rfl⟩, ⟨_, rfl, rfl⟩⟩

theorem writing_symbol : Item.writing readSymbol (.ofJson symbol) := by
  apply Writing.object_ofJson
  exact {
    name := ⟨_, rfl, rfl⟩
    kind := ⟨_, rfl, rfl⟩
    tags := .inl ⟨rfl, rfl⟩
    detail := .inr ⟨_, rfl, rfl⟩
    uri := ⟨_, rfl, rfl⟩
    range := ⟨_, rfl, writing_range⟩
    selectionRange := ⟨_, rfl, writing_range⟩
    data := .inr ⟨_, rfl, nofun, _, rfl, rfl⟩ }

theorem writing_document : Fixture.writing fixture (.ofJson document) := by
  apply Writing.object_ofJson
  refine ⟨⟨_, rfl, ?items⟩, ⟨_, rfl, ?roots⟩, .inr ⟨_, rfl, ?calls⟩⟩
  case items =>
    refine Writing.dictionary_ofJson (List.pairwise_pair.2 (by decide)) (.swap _ _ _) ?_
    exact .cons ⟨rfl, writing_symbol⟩ (.cons ⟨rfl, writing_symbol⟩ .nil)
  case roots => exact Writing.list_ofJson (.cons rfl (.cons rfl .nil))
  case calls =>
    refine Writing.list_ofJson (.cons ?_ .nil)
    exact Writing.object_ofJson ⟨⟨_, rfl, rfl⟩, ⟨_, rfl, rfl⟩, .inl ⟨rfl, rfl⟩⟩

end Sketch

/-- Written down without blanks, the sketch is read as what is meant. -/
theorem CallGraph.ofText_of_sketch :
    Fixture.writing.IsText Sketch.fixture Sketch.document.compact
      ∧ Fixture.ofText Sketch.document.compact = .ok Sketch.fixture
      ∧ CallGraph.ofText Sketch.document.compact = Sketch.fixture.graph.mapError .fixture := by
  have htext : Fixture.writing.IsText Sketch.fixture Sketch.document.compact :=
    Writing.isText_compact Sketch.writing_document (by decide) (by decide)
  exact ⟨htext, ofText_of_isText htext⟩

end CallExplorer
