/-
Rows in a text.

For people a text has a line for each row, in order, and `OnLine` says piece by piece what is on
it. For programs it is one JSON document, an array with an object for each row (`DocumentOf`). No
text of the program comes into what is said of either: the rows alone decide what may stand there.

There is no choice in a line, so the outline that a program writes is the only one that there is
(`outlineOf_iff`). A document may be spelled in many ways, and the one that is written is among
them (`documentOf_listText`).
-/
import CallExplorer.Proofs.Command.Output

namespace CallExplorer

-- ============================================ rows on lines

/-- A number that counts from 0, as people have it, who count from 1. The greatest number of 32 bits
has none behind it, and stays what it is. -/
inductive CountedFromOne (n : UInt32) : String → Prop
  | next (h : n.toNat + 1 < 2 ^ 32) : CountedFromOne n (Nat.repr (n.toNat + 1))
  | greatest (h : n.toNat + 1 = 2 ^ 32) : CountedFromOne n "4294967295"

theorem countedFromOne_iff {n : UInt32} {text : String} :
    CountedFromOne n text ↔ text = Text.decimal (Location.fromOne n) := by
  have hn := n.toNat_lt
  constructor
  · rintro (h | h)
    · rw [Location.fromOne, Nat.min_eq_left (Nat.le_of_lt_succ h)]
      rfl
    · rw [Location.fromOne, h]
      rfl
  · rintro rfl
    rcases Nat.lt_or_eq_of_le (Nat.succ_le_of_lt hn) with h | h
    · rw [Location.fromOne, Nat.min_eq_left (Nat.le_of_lt_succ h)]
      exact .next h
    · rw [Location.fromOne, Nat.min_eq_right (by omega)]
      exact .greatest h

/-- The path of a location, and the line and the column where it starts. -/
inductive Location.PlacedAt (l : Location) : String → Prop
  | intro {line column : String} (hline : CountedFromOne l.range.start.line line)
      (hcolumn : CountedFromOne l.range.start.character column) :
      PlacedAt l (l.uri.toPath ++ ":" ++ line ++ ":" ++ column)

theorem Location.placedAt_iff {l : Location} {text : String} :
    l.PlacedAt text ↔ text = l.display := by
  constructor
  · rintro ⟨hline, hcolumn⟩
    rw [countedFromOne_iff.1 hline, countedFromOne_iff.1 hcolumn]
    rfl
  · rintro rfl
    exact .intro (countedFromOne_iff.2 rfl) (countedFromOne_iff.2 rfl)

/-- What is told of call sites: the first of them, and how many more there are. -/
inductive SitesTold : List Location → String → Prop
  | none : SitesTold [] ""
  | one {first : Location} {place : String} (h : first.PlacedAt place) :
      SitesTold [first] (" @ " ++ place)
  | more {first next : Location} {rest : List Location} {place : String}
      (h : first.PlacedAt place) :
      SitesTold (first :: next :: rest) (" @ " ++ place ++ " +" ++ Nat.repr (rest.length + 1))

theorem sitesTold_iff {ls : List Location} {text : String} :
    SitesTold ls text ↔ text = Row.sitesText ls := by
  constructor
  · intro h
    cases h with
    | none => rfl
    | one h => rw [Location.placedAt_iff.1 h]; rfl
    | more h => rw [Location.placedAt_iff.1 h]; rfl
  · rintro rfl
    match ls with
    | [] => exact .none
    | [first] => exact .one (Location.placedAt_iff.2 rfl)
    | first :: _ :: _ => exact .more (Location.placedAt_iff.2 rfl)

namespace Row

variable {r : Row} {rows : List Row} {text : String}

/-- The line of a row: two spaces for each level, the name, whether it is deprecated, the
description if there is one, the call sites if there are any, and the line feed. -/
inductive OnLine (r : Row) : String → Prop
  | intro {sites : String} (hsites : SitesTold (r.locations.getD []) sites) :
      OnLine r (String.ofList (List.replicate (2 * r.depth) ' ') ++ r.label.name
        ++ (if r.label.deprecated then " [deprecated]" else "")
        ++ (r.label.description.elim "" fun text => " (" ++ text ++ ")") ++ sites ++ "\n")

/-- There is one such line, and the program writes it. -/
theorem onLine_iff : r.OnLine text ↔ text = r.line := by
  have hline : r.line = String.ofList (List.replicate (2 * r.depth) ' ') ++ r.label.name
      ++ (if r.label.deprecated then " [deprecated]" else "")
      ++ (r.label.description.elim "" fun text => " (" ++ text ++ ")")
      ++ sitesText (r.locations.getD []) ++ "\n" := by
    unfold line lineText
    cases r.label.description <;> simp [String.append_assoc]
  constructor
  · rintro ⟨hsites⟩
    rw [hline, sitesTold_iff.1 hsites]
  · rintro rfl
    rw [hline]
    exact .intro (sitesTold_iff.2 rfl)

/-- The text has a line for each of the rows, one after the other. -/
def OutlineOf (rows : List Row) (text : String) : Prop :=
  ∃ lines, List.Forall₂ OnLine rows lines ∧ text = String.join lines

/-- There is one such text, and the program writes it. -/
theorem outlineOf_iff : OutlineOf rows text ↔ text = outline rows := by
  constructor
  · rintro ⟨lines, hrows, rfl⟩
    have hlines : rows.map line = lines := by
      induction hrows with
      | nil => rfl
      | cons hline _ ih => rw [List.map_cons, ih, onLine_iff.1 hline]
    rw [outline, hlines]
  · rintro rfl
    refine ⟨rows.map line, ?_, rfl⟩
    rw [List.forall₂_map_right_iff, List.forall₂_same]
    exact fun r _ => onLine_iff.2 rfl

/-- The text is a JSON document and a line feed. The document is an array, and its objects tell the
rows, one after the other. -/
def DocumentOf (rows : List Row) (text : String) : Prop :=
  ∃ document v objects, text = document ++ "\n" ∧ Json.WrittenAs v (Text.bytes document)
    ∧ v.normal = .array objects ∧ List.Forall₂ ToldBy rows objects

theorem documentOf_listText (h : ∀ r ∈ rows, r.depth < 2 ^ 64) :
    DocumentOf rows (listText rows ++ "\n") := by
  refine ⟨_, _, rows.map fun r => r.json.normal, rfl, writtenAs_listText h, ?_, ?_⟩
  · rw [listJson, Json.normal, Json.normalItems_eq_map, List.map_map]
    rfl
  · rw [List.forall₂_map_right_iff, List.forall₂_same]
    exact fun r _ => r.toldBy_json

end Row

end CallExplorer
