/-
Symbols over the wire.

A symbol that was written as a value, and read back through a message, is the same symbol but
for its data, which come back as data that were read: `Item.received`. Nothing that the explorer
looks at lies in the data, and the data never become anything that could not be written again.
-/
import CallExplorer.Graph.Basic
import CallExplorer.Proofs.Json.Records

namespace CallExplorer

-- ============================================ numbers and lists

/-- A whole number that fits is read as what is made of it. -/
theorem decode_integer {α : Type} {wanted : Wanted} {fits : Int → Bool} {make : Int → α} {n : Int}
    (h : fits n = true) : decodeValue (.integer wanted fits make) (.int n) = .ok (make n) := by
  rw [decodeValue, Doc.ofJson, Decoder.integer, if_pos h]

/-- A number of 32 bits without a sign is read back. -/
theorem decode_u32 (n : UInt32) : decodeValue .u32 (.int n.toNat) = .ok n := by
  have hn := n.toNat_lt
  rw [Decoder.u32, decode_integer, Int.toNat_natCast, UInt32.ofNat_toNat]
  simp only [Bool.and_eq_true, decide_eq_true_eq]
  omega

theorem decode_i32 (n : Int32) : decodeValue .i32 (.int n.toInt) = .ok n := by
  have hlow := n.le_toInt
  have hhigh := n.toInt_lt
  rw [Decoder.i32, decode_integer, Int32.ofInt_toInt]
  simp only [Bool.and_eq_true, decide_eq_true_eq]
  omega

theorem decode_uri (u : Uri) : decodeValue .uri (.text u.text) = .ok u := by
  have htext : Decoder.text .value (Doc.ofJson (.text u.text)) = .ok u.text := rfl
  rw [decodeValue, Decoder.uri, htext]
  simp only [Bind.bind, Except.bind, u.parse_text]

/-- A list is read back if its items are. -/
theorem decode_list {α β : Type} {decode : Decoder β} {write : α → Json} {read : α → β}
    (xs : List α) (h : ∀ x ∈ xs, decodeValue decode (write x).normal = .ok (read x)) :
    decodeValue (.list decode) (Json.array (xs.map write)).normal = .ok (xs.map read) := by
  have hitems : Decoder.items (decode .value) (Doc.ofItems (Json.normalItems (xs.map write)))
      = .ok (xs.map read) := by
    induction xs with
    | nil => rw [List.map_nil, Json.normalItems, Doc.ofItems, Decoder.items, List.map_nil]
    | cons x xs ih =>
        have hx := h x List.mem_cons_self
        have hxs := ih fun y hy => h y (List.mem_cons_of_mem x hy)
        rw [decodeValue] at hx
        rw [List.map_cons, Json.normalItems, Doc.ofItems, Decoder.items, hx]
        show (Decoder.items _ _).bind _ = _
        rw [hxs]
        rfl
  exact hitems

/-- What is read is what is made of what the record says. -/
theorem decode_map {α β : Type} {decode : Decoder α} {f : α → β} {v : Json} {x : α}
    (h : decodeValue decode v = .ok x) : decodeValue (decode.map f) v = .ok (f x) := by
  rw [decodeValue] at h ⊢
  rw [Decoder.map, h]
  rfl

-- ============================================ places

section Orders

variable {members : List (String × Json)} (hkeys : (members.map (·.1)).Nodup)

include hkeys

/-- A position is read from its members, which may come in any order. -/
theorem Position.decode_members {p : Position} (hline : ("line", .int p.line.toNat) ∈ members)
    (hcharacter : ("character", .int p.character.toNat) ∈ members) :
    decodeValue decoder (Json.object members).normal = .ok p := by
  refine decode_map (x := (p.line, p.character, ())) ?_
  refine Fields.decodeValue_normal "Position" (by decide) hkeys
    (Fields.find_cons ?_ (Fields.find_cons ?_ trivial))
  · exact Field.finds_required hline (decode_u32 p.line)
  · exact Field.finds_required hcharacter (decode_u32 p.character)

/-- So is a range. -/
theorem Range.decode_members {r : Range} {start stop : Json} (hstart : ("start", start) ∈ members)
    (hstop : ("end", stop) ∈ members)
    (hreadStart : decodeValue Position.decoder start.normal = .ok r.start)
    (hreadStop : decodeValue Position.decoder stop.normal = .ok r.stop) :
    decodeValue decoder (Json.object members).normal = .ok r := by
  refine decode_map (x := (r.start, r.stop, ())) ?_
  refine Fields.decodeValue_normal "Range" (by decide) hkeys
    (Fields.find_cons ?_ (Fields.find_cons ?_ trivial))
  · exact Field.finds_required hstart hreadStart
  · exact Field.finds_required hstop hreadStop

end Orders

theorem Position.decode_json (p : Position) : decodeValue decoder p.json.normal = .ok p :=
  Position.decode_members (by simp) (by simp) (by simp)

theorem Position.decode_printedJson (p : Position) :
    decodeValue decoder p.printedJson.normal = .ok p :=
  Position.decode_members (by simp) (by simp) (by simp)

theorem Range.decode_json (r : Range) : decodeValue decoder r.json.normal = .ok r :=
  Range.decode_members (by simp) (List.mem_cons_of_mem _ List.mem_cons_self) List.mem_cons_self
    r.start.decode_json r.stop.decode_json

theorem Range.decode_printedJson (r : Range) :
    decodeValue decoder r.printedJson.normal = .ok r :=
  Range.decode_members (by simp) List.mem_cons_self (List.mem_cons_of_mem _ List.mem_cons_self)
    r.start.decode_printedJson r.stop.decode_printedJson

theorem Location.decode_json (l : Location) : decodeValue decoder l.json.normal = .ok l := by
  refine decode_map (x := (l.uri, l.range, ())) ?_
  have hkeys : ["uri", "range"].Nodup := by decide
  refine Fields.decodeValue_normal "Location" (by decide) (by exact hkeys)
    (Fields.find_cons ?_ (Fields.find_cons ?_ trivial))
  · exact Field.finds_required (v := .text l.uri.text) List.mem_cons_self (decode_uri l.uri)
  · exact Field.finds_required (List.mem_cons_of_mem _ List.mem_cons_self) l.range.decode_printedJson

-- ============================================ what can be written

theorem Json.areWhole_map {α : Type} {write : α → Json} {xs : List α}
    (h : ∀ x ∈ xs, (write x).isWhole = true) : areWhole (xs.map write) = true := by
  induction xs with
  | nil => rfl
  | cons x xs ih =>
      rw [List.forall_mem_cons] at h
      rw [List.map_cons, areWhole, h.1, ih h.2]
      rfl

/-- Numbers of 32 bits can be written. -/
theorem Json.isWhole_u32 (n : UInt32) : (Json.int n.toNat).isWhole = true := by
  have hn := n.toNat_lt
  simp only [isWhole, Bool.and_eq_true, decide_eq_true_eq]
  omega

theorem Json.isWhole_i32 (n : Int32) : (Json.int n.toInt).isWhole = true := by
  have hlow := n.le_toInt
  have hhigh := n.toInt_lt
  simp only [isWhole, Bool.and_eq_true, decide_eq_true_eq]
  omega

theorem Position.isWhole_json (p : Position) : p.json.isWhole = true := by
  rw [json, Json.isWhole, Json.haveWhole, Json.haveWhole, Json.haveWhole,
    Json.isWhole_u32, Json.isWhole_u32]
  rfl

theorem Range.isWhole_json (r : Range) : r.json.isWhole = true := by
  rw [json, Json.isWhole, Json.haveWhole, Json.haveWhole, Json.haveWhole,
    r.start.isWhole_json, r.stop.isWhole_json]
  rfl

theorem Position.isWhole_printedJson (p : Position) : p.printedJson.isWhole = true := by
  rw [printedJson, Json.isWhole, Json.haveWhole, Json.haveWhole, Json.haveWhole,
    Json.isWhole_u32, Json.isWhole_u32]
  rfl

theorem Range.isWhole_printedJson (r : Range) : r.printedJson.isWhole = true := by
  rw [printedJson, Json.isWhole, Json.haveWhole, Json.haveWhole, Json.haveWhole,
    r.start.isWhole_printedJson, r.stop.isWhole_printedJson]
  rfl

theorem Location.isWhole_json (l : Location) : l.json.isWhole = true := by
  rw [json, Json.isWhole, Json.haveWhole, Json.haveWhole, Json.haveWhole,
    l.range.isWhole_printedJson]
  rfl

-- ============================================ items

namespace Json

/-- What is kept can be written if the value could be. -/
theorem isWhole_kept {v w : Json} (hv : v.isWhole = true) (h : v.kept = some w) :
    w.isWhole = true := by
  cases v with
  | null => cases h
  | _ =>
      injection h with h
      rw [← h]
      exact isWhole_normal _ hv

/-- Members that may be left out are there when there is a value. -/
@[simp] theorem mem_optional {key k : String} {value : Option Json} {v : Json} :
    (k, v) ∈ optional key value ↔ k = key ∧ value = some v := by
  cases value <;> simp [optional, eq_comm]

end Json

namespace Item

/-- The members of an item as a value. -/
def members (i : Item) : List (String × Json) :=
  Json.optional "data" i.data
    ++ Json.optional "detail" (i.detail.map .text)
    ++ [("kind", .int i.kind.toInt), ("name", .text i.name), ("range", i.range.json),
        ("selectionRange", i.selectionRange.json)]
    ++ Json.optional "tags" (i.tags.map fun ts => .array (ts.map fun t => .int t.toInt))
    ++ [("uri", .text i.uri.text)]

theorem json_eq (i : Item) : i.json = .object i.members := rfl

/-- An item as it comes back: all of it but the data, which were read twice. -/
def received (i : Item) : Item := { i with data := i.data.bind fun v => v.normal.kept }

theorem nodup_keys (i : Item) : (i.members.map (·.1)).Nodup := by
  obtain ⟨name, kind, tags, detail, uri, range, selectionRange, data⟩ := i
  cases data <;> cases detail <;> cases tags <;>
    simp [members, Json.optional]

/-- An item is read back. -/
theorem decode_json (i : Item) : decodeValue decoder i.json.normal = .ok i.received := by
  rw [json_eq]
  refine decode_map (x := (i.name, i.kind, i.tags, i.detail, i.uri, i.range, i.selectionRange,
    i.received.data, ())) ?_
  refine Fields.decodeValue_normal "CallHierarchyItem" (by decide) i.nodup_keys ?_
  -- each field has its member, and the optional ones have it when there is something to say
  refine Fields.find_cons ?name <| Fields.find_cons ?kind <| Fields.find_cons ?tags <|
    Fields.find_cons ?detail <| Fields.find_cons ?uri <| Fields.find_cons ?range <|
    Fields.find_cons ?selectionRange <| Fields.find_cons ?data trivial
  case name => exact Field.finds_required (v := .text i.name) (by simp [members]) rfl
  case kind =>
    exact Field.finds_required (v := .int i.kind.toInt) (by simp [members]) (decode_i32 i.kind)
  case uri =>
    exact Field.finds_required (v := .text i.uri.text) (by simp [members]) (decode_uri i.uri)
  case range => exact Field.finds_required (by simp [members]) i.range.decode_json
  case selectionRange =>
    exact Field.finds_required (by simp [members]) i.selectionRange.decode_json
  case tags =>
    refine Field.finds_optional (i.tags.map fun ts => .array (ts.map fun t => .int t.toInt))
      (fun v => by simp [members]) ?_ (by simp)
    intro v hv
    obtain ⟨ts, hts, rfl⟩ := Option.map_eq_some_iff.1 hv
    have hlist : decodeValue (.list .i32) (Json.array (ts.map fun t => .int t.toInt)).normal
        = .ok (ts.map id) := decode_list ts fun t _ => decode_i32 t
    rw [List.map_id] at hlist
    rw [hts]
    exact Decoder.option_ofJson (fun hnull => by cases hnull) hlist
  case detail =>
    refine Field.finds_optional (i.detail.map .text) (fun v => by simp [members]) ?_ (by simp)
    intro v hv
    obtain ⟨detail, hdetail, rfl⟩ := Option.map_eq_some_iff.1 hv
    rw [hdetail]
    rfl
  case data =>
    refine Field.finds_optional i.data (fun v => by simp [members]) ?_ ?_
    · intro v hv
      rw [received, hv]
      exact Decoder.any_option_ofJson v.normal trivial
    · intro hnone
      rw [received, hnone]
      rfl

/-- Whether the data of an item can be written. -/
def Whole (i : Item) : Prop := ∀ v, i.data = some v → v.isWhole = true

/-- They can be after the item came back, if they could be before. -/
theorem Whole.received {i : Item} (h : i.Whole) : i.received.Whole := by
  intro w hw
  obtain ⟨v, hv, hkept⟩ := Option.bind_eq_some_iff.1 hw
  exact Json.isWhole_kept (Json.isWhole_normal v (h v hv)) hkept

/-- All the numbers of an item can be written then. -/
theorem Whole.json {i : Item} (h : i.Whole) : i.json.isWhole = true := by
  refine Json.haveWhole_iff.2 fun m hm => ?_
  obtain ⟨k, v⟩ := m
  simp only [List.mem_append, Json.mem_optional, List.mem_cons, List.not_mem_nil,
    or_false, Prod.mk.injEq, Option.map_eq_some_iff] at hm
  rcases hm with
    (((⟨-, hdata⟩ | ⟨-, s, -, rfl⟩) | hfixed) | ⟨-, ts, -, rfl⟩) | ⟨-, rfl⟩
  · exact h v hdata
  · rfl
  · rcases hfixed with ⟨-, rfl⟩ | ⟨-, rfl⟩ | ⟨-, rfl⟩ | ⟨-, rfl⟩
    · exact Json.isWhole_i32 i.kind
    · rfl
    · exact i.range.isWhole_json
    · exact i.selectionRange.isWhole_json
  · exact Json.areWhole_map fun t _ => Json.isWhole_i32 t
  · rfl

end Item

-- ============================================ links

namespace Link

/-- A link as it comes back. -/
def received (l : Link) : Link := { l with item := l.item.received }

/-- A link is read back. -/
theorem decode_json (d : Direction) (l : Link) :
    decodeValue (decoder d) (l.json d).normal = .ok l.received := by
  refine decode_map (x := (l.item.received, l.sites, ())) ?_
  have hsites : decodeValue (.list Range.decoder) (Json.array (l.sites.map Range.json)).normal
      = .ok (l.sites.map id) := decode_list l.sites fun r _ => r.decode_json
  rw [List.map_id] at hsites
  have hkeys : [endKey d, "fromRanges"].Nodup := by cases d <;> decide
  refine Fields.decodeValue_normal (recordName d) (by exact hkeys) (by exact hkeys) ?_
  refine Fields.find_cons ?item <| Fields.find_cons ?sites trivial
  case item => exact Field.finds_required List.mem_cons_self l.item.decode_json
  case sites => exact Field.finds_required (List.mem_cons_of_mem _ List.mem_cons_self) hsites

end Link

-- ============================================ call graphs

/-- All the numbers in the data of the symbols of a call graph can be written. -/
structure CallGraph.Whole (g : CallGraph) : Prop where
  roots : ∀ i ∈ g.roots, i.Whole
  calls : ∀ c ∈ g.calls, c.caller.Whole ∧ c.callee.Whole

/-- So can those in what the graph answers. -/
theorem CallGraph.Whole.links {g : CallGraph} (h : g.Whole) {d : Direction} {i : Item} {l : Link}
    (hl : l ∈ g.links d i) : l.item.Whole :=
  of_mem_links h.calls hl

end CallExplorer
