/-
The output of a listing in JSON.

Rows are written as one indented document, an array with an object for each row, and a line feed.
Nothing is lost on the way: whoever reads the document finds each row again, with everything that
belongs to it (`Row.read?_json`).

# What is absent

A description and a list of call sites may be missing, and that is something else than being empty.
What is missing is written as `null`, and no text and no array is; so `null` stands in these places
exactly when there is nothing to be said (`orNull_normal_eq_null_iff`), and a reader that tells
`null` from all other values tells the two apart (`nullable?_orNull`).

# What this closes

`writeRows_lossless`: the output is one document by the grammar, reading it gives an object for each
row from which the row is got back, and so no other rows have the same output. Depths are bounded
because the numbers of a document are read as numbers of 64 bits.
-/
import CallExplorer.Command.Run
import CallExplorer.Proofs.Json.Indented
import CallExplorer.Proofs.Json.Reading
import CallExplorer.Proofs.Symbol.Wire
import Mathlib.Algebra.Group.Nat.Defs
import Mathlib.Data.List.Forall2

namespace CallExplorer

-- ============================================ values read as what they are

namespace Json

variable {α : Type} {read : Json → Option α} {write : α → Json}

/-- The text that a value is. -/
def text? : Json → Option String
  | .text s => some s
  | _ => none

/-- The truth value that a value is. -/
def bool? : Json → Option Bool
  | .bool b => some b
  | _ => none

/-- The number from 0 on that a value is. -/
def natural? : Json → Option Nat
  | .int (.ofNat n) => some n
  | _ => none

/-- What the items of an array are read as. -/
def items? (read : Json → Option α) : Json → Option (List α)
  | .array items => items.mapM read
  | _ => none

/-- What a value is read as that may be `null`. -/
def nullable? (read : Json → Option α) : Json → Option (Option α)
  | .null => some none
  | v => (read v).map some

/-- What the member with the key is read as. -/
def member? (v : Json) (key : String) (read : Json → Option α) : Option α := (v.get? key).bind read

theorem items?_normal {xs : List α} (h : ∀ x ∈ xs, read (write x).normal = some x) :
    items? read (Json.array (xs.map write)).normal = some xs := by
  rw [normal, normalItems_eq_map, List.map_map]
  show (xs.map _).mapM read = some xs
  induction xs with
  | nil => rfl
  | cons x xs ih =>
      rw [List.forall_mem_cons] at h
      rw [List.map_cons, List.mapM_cons, Function.comp_apply, h.1, ih h.2]
      rfl

/-- `null` stands for what is missing, and for nothing else. -/
theorem orNull_normal_eq_null_iff (hwrite : ∀ x, (write x).normal ≠ .null) (value : Option α) :
    (orNull (value.map write)).normal = .null ↔ value = none := by
  cases value with
  | none => exact ⟨fun _ => rfl, fun _ => rfl⟩
  | some x => exact ⟨fun h => absurd h (hwrite x), fun h => by cases h⟩

/-- What may be missing is read back, be it there or not. -/
theorem nullable?_orNull (hwrite : ∀ x, (write x).normal ≠ .null) {value : Option α}
    (h : ∀ x, value = some x → read (write x).normal = some x) :
    nullable? read (orNull (value.map write)).normal = some value := by
  cases value with
  | none => rfl
  | some x =>
      have hread : nullable? read (write x).normal = (read (write x).normal).map some := by
        cases hv : (write x).normal with
        | null => exact absurd hv (hwrite x)
        | _ => rfl
      exact hread.trans (congrArg (Option.map some) (h x rfl))

end Json

-- ============================================ rows read back

namespace SymbolKind

/-- The kind of a name. -/
def ofName? (s : String) : Option SymbolKind :=
  [function, method, constructor, property, unknown].find? (·.name == s)

theorem ofName?_name (k : SymbolKind) : ofName? k.name = some k := by
  cases k <;> decide

end SymbolKind

/-- The label that an object says. -/
def Label.read? (v : Json) : Option Label := do
  let name ← v.member? "name" Json.text?
  let description ← v.member? "description" (Json.nullable? Json.text?)
  let kind ← v.member? "kind" fun kind => kind.text?.bind SymbolKind.ofName?
  let deprecated ← v.member? "deprecated" Json.bool?
  some ⟨name, description, kind, deprecated⟩

/-- The location that a value says, by the reader of locations in messages. -/
def Location.read? (v : Json) : Option Location := (decodeValue Location.decoder v).toOption

/-- The row that an object says. -/
def Row.read? (v : Json) : Option Row := do
  let depth ← v.member? "depth" Json.natural?
  let id ← v.member? "id" Json.text?
  let label ← v.member? "label" Label.read?
  let spoken ← v.member? "aria_label" Json.text?
  let locations ← v.member? "locations" (Json.nullable? (Json.items? Location.read?))
  some ⟨depth, id, label, spoken, locations⟩

/-- The members of the label of a row, found where they were written. -/
theorem Label.get?_json (l : Label) :
    (Row.labelJson l).normal.get? "name" = some (.text l.name)
      ∧ (Row.labelJson l).normal.get? "description"
        = some (Json.orNull (l.description.map .text)).normal
      ∧ (Row.labelJson l).normal.get? "kind" = some (.text l.kind.name)
      ∧ (Row.labelJson l).normal.get? "deprecated" = some (.bool l.deprecated) := by
  have hkeys : ["name", "description", "kind", "deprecated"].Nodup := by decide
  refine ⟨?_, ?_, ?_, ?_⟩
  · exact Json.get?_normal (v := .text l.name) (by exact hkeys) (by simp)
  · exact Json.get?_normal (v := Json.orNull (l.description.map .text)) (by exact hkeys) (by simp)
  · exact Json.get?_normal (v := .text l.kind.name) (by exact hkeys) (by simp)
  · exact Json.get?_normal (v := .bool l.deprecated) (by exact hkeys) (by simp)

/-- A label is read back. -/
theorem Label.read?_json (l : Label) : read? (Row.labelJson l).normal = some l := by
  obtain ⟨hname, hdescription, hkind, hdeprecated⟩ := l.get?_json
  have hread : Json.nullable? Json.text? (Json.orNull (l.description.map .text)).normal
      = some l.description :=
    Json.nullable?_orNull (fun _ h => by cases h) fun _ _ => rfl
  simp only [read?, Json.member?, hname, hdescription, hkind, hdeprecated, Option.bind_some,
    hread, Json.text?, Json.bool?, SymbolKind.ofName?_name, bind]

theorem Location.read?_json (l : Location) : read? l.json.normal = some l := by
  rw [read?, l.decode_json]
  rfl

namespace Row

/-- The members of a row, found where they were written. -/
theorem get?_json (r : Row) :
    r.json.normal.get? "depth" = some (.int r.depth)
      ∧ r.json.normal.get? "id" = some (.text r.id)
      ∧ r.json.normal.get? "label" = some (labelJson r.label).normal
      ∧ r.json.normal.get? "aria_label" = some (.text r.spoken)
      ∧ r.json.normal.get? "locations"
        = some (Json.orNull (r.locations.map fun ls => .array (ls.map Location.json))).normal := by
  have hkeys : ["depth", "id", "label", "aria_label", "locations"].Nodup := by decide
  refine ⟨?_, ?_, ?_, ?_, ?_⟩
  · exact Json.get?_normal (v := .int r.depth) (by exact hkeys) (by simp)
  · exact Json.get?_normal (v := .text r.id) (by exact hkeys) (by simp)
  · exact Json.get?_normal (v := labelJson r.label) (by exact hkeys) (by simp)
  · exact Json.get?_normal (v := .text r.spoken) (by exact hkeys) (by simp)
  · exact Json.get?_normal (by exact hkeys) (by simp)

/-- A row is read back. -/
theorem read?_json (r : Row) : read? r.json.normal = some r := by
  obtain ⟨hdepth, hid, hlabel, hspoken, hlocations⟩ := r.get?_json
  have hread : Json.nullable? (Json.items? Location.read?)
      (Json.orNull (r.locations.map fun ls => .array (ls.map Location.json))).normal
        = some r.locations :=
    Json.nullable?_orNull (fun _ h => by cases h) fun _ _ =>
      Json.items?_normal fun l _ => l.read?_json
  simp only [read?, Json.member?, hdepth, hid, hlabel, hspoken, hlocations, Option.bind_some,
    hread, Json.text?, Label.read?_json, bind]
  rfl

/-- What an object of the output says: all of a row, and `null` only where the row has nothing. -/
structure ToldBy (r : Row) (v : Json) : Prop where
  object : ∃ members, v = .object members
  row : read? v = some r
  description : (v.get? "label").bind (·.get? "description") = some .null
    ↔ r.label.description = none
  locations : v.get? "locations" = some .null ↔ r.locations = none

theorem toldBy_json (r : Row) : r.ToldBy r.json.normal := by
  obtain ⟨-, -, hlabel, -, hlocations⟩ := r.get?_json
  refine ⟨⟨_, rfl⟩, r.read?_json, ?_, ?_⟩
  · rw [hlabel, Option.bind_some, r.label.get?_json.2.1, Option.some.injEq]
    exact Json.orNull_normal_eq_null_iff (fun _ h => by cases h) _
  · rw [hlocations, Option.some.injEq]
    exact Json.orNull_normal_eq_null_iff (fun _ h => by cases h) _

-- ============================================ what can be written

theorem isWhole_json {r : Row} (h : r.depth < 2 ^ 64) : r.json.isWhole = true := by
  have hdepth : (Json.int r.depth).isWhole = true := by
    simp only [Json.isWhole, Bool.and_eq_true, decide_eq_true_eq]
    omega
  have hlabel : (labelJson r.label).isWhole = true := by
    unfold labelJson
    cases r.label.description <;> rfl
  have hlocations :
      (Json.orNull (r.locations.map fun ls => .array (ls.map Location.json))).isWhole = true := by
    cases r.locations with
    | none => rfl
    | some ls => exact Json.areWhole_map fun l _ => l.isWhole_json
  simp only [json, Json.isWhole, Json.haveWhole, hlabel, hlocations, Bool.and_true]
  exact hdepth

/-- Locations nest three levels deep, and a row holds them in an array. -/
theorem depth_json_le (r : Row) : r.json.depth ≤ 5 := by
  have hlabel : (labelJson r.label).depth = 1 := by
    unfold labelJson
    cases r.label.description <;> rfl
  have hlocations :
      (Json.orNull (r.locations.map fun ls => .array (ls.map Location.json))).depth ≤ 4 := by
    cases r.locations with
    | none => exact Nat.zero_le 4
    | some ls =>
        refine Nat.succ_le_succ (Json.depthItems_le_iff.2 fun v hv => ?_)
        obtain ⟨l, -, rfl⟩ := List.mem_map.1 hv
        exact Nat.le_refl 3
  refine Nat.succ_le_succ (Json.depthMembers_le_iff.2 fun m hm => ?_)
  simp only [List.mem_cons, List.not_mem_nil, or_false] at hm
  rcases hm with rfl | rfl | rfl | rfl | rfl
  · exact Nat.zero_le 4
  · exact Nat.zero_le 4
  · rw [hlabel]
    decide
  · exact Nat.zero_le 4
  · exact hlocations

/-- The text of rows is a text of their value. -/
theorem writtenAs_listText {rows : List Row} (h : ∀ r ∈ rows, r.depth < 2 ^ 64) :
    (listJson rows).WrittenAs (Text.bytes (listText rows)) := by
  have hwhole : (listJson rows).isWhole = true :=
    Json.areWhole_map fun r hr => isWhole_json (h r hr)
  exact Json.writtenAs_indented hwhole

/-- It is read as an array of the objects of the rows. -/
theorem decodeText_listText {rows : List Row} (h : ∀ r ∈ rows, r.depth < 2 ^ 64) :
    decodeText .any (Text.bytes (listText rows))
      = .ok (.array (rows.map fun r => r.json.normal)) := by
  have hdepth : (listJson rows).depth ≤ maxLevels := by
    have hitems : Json.depthItems (rows.map json) ≤ 5 := by
      refine Json.depthItems_le_iff.2 fun v hv => ?_
      obtain ⟨r, -, rfl⟩ := List.mem_map.1 hv
      exact r.depth_json_le
    rw [listJson, Json.depth, maxLevels]
    omega
  rw [decodeText_written (writtenAs_listText h) (Decoder.any_ofJson _ _ hdepth), listJson,
    Json.normal, Json.normalItems_eq_map, List.map_map]
  rfl

/-- Rows are told apart by their text. -/
theorem listText_inj {rows others : List Row} (h : ∀ r ∈ rows, r.depth < 2 ^ 64)
    (hothers : ∀ r ∈ others, r.depth < 2 ^ 64) (heq : listText others = listText rows) :
    others = rows := by
  have hread := decodeText_listText hothers
  rw [heq, decodeText_listText h] at hread
  injection hread with hread
  injection hread with hobjects
  have hback : ∀ rs : List Row, (rs.map fun r => r.json.normal).map read? = rs.map some := by
    intro rs
    rw [List.map_map]
    exact List.map_congr_left fun r _ => r.read?_json
  have hsome := congrArg (List.map read?) hobjects
  rw [hback, hback] at hsome
  exact (List.map_inj_right fun _ _ => Option.some.inj).1 hsome.symm

end Row

namespace Command

/-- An output that takes everything takes the text of rows, and a line feed. -/
theorem writeRows_json (rows : List Row) :
    writeRows true none rows = (.ok (), Text.bytes (Row.listText rows) ++ [0x0A]) := by
  unfold writeRows fitting fits
  dsimp only
  rw [Text.bytes_append]
  rfl

/-- What is written of rows in JSON is one document and a line feed. Reading the document gives an
array with an object for each row, in their order, from which the row is got back, with `null` only
for a description and locations that the row does not have. No other rows are written like this. -/
theorem writeRows_lossless {rows : List Row} (hdepth : ∀ r ∈ rows, r.depth < 2 ^ 64) :
    ∃ (text : String) (objects : List Json),
      writeRows true none rows = (.ok (), Text.bytes text ++ [0x0A])
        ∧ (Row.listJson rows).WrittenAs (Text.bytes text)
        ∧ decodeText .any (Text.bytes text) = .ok (.array objects)
        ∧ List.Forall₂ Row.ToldBy rows objects
        ∧ ∀ others : List Row, (∀ r ∈ others, r.depth < 2 ^ 64) →
            (writeRows true none others).2 = (writeRows true none rows).2 → others = rows := by
  refine ⟨Row.listText rows, rows.map fun r => r.json.normal, writeRows_json rows,
    Row.writtenAs_listText hdepth, Row.decodeText_listText hdepth, ?_, ?_⟩
  · rw [List.forall₂_map_right_iff, List.forall₂_same]
    exact fun r _ => r.toldBy_json
  · intro others hothers heq
    rw [writeRows_json, writeRows_json] at heq
    exact Row.listText_inj hdepth hothers (Text.bytes_inj.1 (List.append_cancel_right heq))

/-- Two rows that differ only in what is absent in one of them and empty in the other. -/
def likeRows : List Row :=
  [⟨18446744073709551615, "\"\\", ⟨"\u0007é", none, .unknown, true⟩, "\n", none⟩,
    ⟨18446744073709551615, "\"\\", ⟨"\u0007é", some "", .unknown, true⟩, "\n", some []⟩]

/-- They are got back, each in its place. -/
theorem likeRows_written :
    (∀ r ∈ likeRows, r.depth < 2 ^ 64)
      ∧ (∃ (text : String) (objects : List Json),
          writeRows true none likeRows = (.ok (), Text.bytes text ++ [0x0A])
            ∧ decodeText .any (Text.bytes text) = .ok (.array objects)
            ∧ List.Forall₂ Row.ToldBy likeRows objects)
      ∧ (writeRows true none likeRows.reverse).2 ≠ (writeRows true none likeRows).2 := by
  have hdepth : ∀ r ∈ likeRows, r.depth < 2 ^ 64 := by decide
  obtain ⟨text, objects, hwritten, -, hread, htold, honly⟩ := writeRows_lossless hdepth
  refine ⟨hdepth, ⟨text, objects, hwritten, hread, htold⟩, fun heq => ?_⟩
  exact absurd (honly likeRows.reverse (by decide) heq) (by decide)

end Command

end CallExplorer
