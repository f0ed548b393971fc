/-
Identities tell nodes apart.

An identity is one flat text. It runs direction, document and range of a node together with
those of its ancestors, and the separators between them may occur in the name of a document as
well. Nothing gets confused, because each part shows where it ends: one of two tags; a quoted
document, which a reader of JSON strings takes off from the front with nothing left over; and
numbers, each with something other than a digit behind it.

So the statements below cancel a part from the front of two texts. What was in front is the
same, and so is what is left. Levels come off one by one in this way (`levels_cancel`).

# What this closes

`identity_eq_iff`: two identities agree exactly if the session looked in the same direction and
both chains up to the root hold the same documents and ranges, level by level.
-/
import CallExplorer.Proofs.Json.Numbers
import CallExplorer.Proofs.Json.Printing
import CallExplorer.Proofs.Json.Strings
import CallExplorer.Tree.Identity

namespace CallExplorer

open Doc (NoDigit noDigit_nil noDigit_cons)

-- ============================================ parts that show where they end

/-- The digits of a number show where they end, if no digit follows. -/
theorem decimal_cancel {m n : Nat} {xs ys : List UInt8} (hx : NoDigit xs) (hy : NoDigit ys)
    (h : Text.bytes (Text.decimal m) ++ xs = Text.bytes (Text.decimal n) ++ ys) :
    m = n ∧ xs = ys := by
  rw [Text.bytes_decimal, Text.bytes_decimal] at h
  have hm := Doc.span_digits (fun _ hd => Doc.isDigit_of_mem_digits (n := m) hd) hx
  have hn := Doc.span_digits (fun _ hd => Doc.isDigit_of_mem_digits (n := n) hd) hy
  rw [Doc.digits, h] at hm
  exact ⟨Doc.digits_injective (hm.1.symm.trans hn.1), hm.2.symm.trans hn.2⟩

/-- A quoted text shows where it ends. -/
theorem escaped_cancel {s t : String} {xs ys : List UInt8}
    (h : Text.bytes (Json.escaped s) ++ xs = Text.bytes (Json.escaped t) ++ ys) :
    s = t ∧ xs = ys := by
  obtain ⟨q, hq, hs⟩ := Doc.quoted_escaped s
  obtain ⟨r, hr, ht⟩ := Doc.quoted_escaped t
  rw [hq, hr, List.cons_append, List.cons_append] at h
  have htail : q ++ xs = r ++ ys := (List.cons.inj h).2
  have hread := Doc.readText_quoted hs xs
  rw [htail, Doc.readText_quoted ht ys] at hread
  injection hread with hread
  obtain ⟨htext, hrest⟩ := Prod.mk.inj hread
  injection htext with htext
  exact ⟨htext.symm, hrest.symm⟩

theorem tag_cancel {d e : Direction} {xs ys : List UInt8}
    (h : Text.bytes d.tag ++ xs = Text.bytes e.tag ++ ys) : d = e ∧ xs = ys := by
  have hout : Text.bytes Direction.outgoing.tag = 0x6F :: Text.bytes "utgoing" := by decide
  have hin : Text.bytes Direction.incoming.tag = 0x69 :: Text.bytes "ncoming" := by decide
  cases d <;> cases e
  case outgoing.outgoing | incoming.incoming => exact ⟨rfl, List.append_cancel_left h⟩
  case outgoing.incoming =>
    rw [hout, hin] at h
    exact absurd (List.cons.inj h).1 (by decide)
  case incoming.outgoing =>
    rw [hout, hin] at h
    exact absurd (List.cons.inj h).1 (by decide)

/-- A position shows where it ends, if no digit follows. -/
theorem Position.mark_cancel {p q : Position} {xs ys : List UInt8} (hx : NoDigit xs)
    (hy : NoDigit ys) (h : Text.bytes p.mark ++ xs = Text.bytes q.mark ++ ys) :
    p = q ∧ xs = ys := by
  have hcolon : Text.bytes ":" = [0x3A] := by decide
  simp only [Position.mark, Text.bytes_append, hcolon, List.append_assoc,
    List.singleton_append] at h
  obtain ⟨hline, h⟩ := decimal_cancel (noDigit_cons (by decide)) (noDigit_cons (by decide)) h
  obtain ⟨hcharacter, hrest⟩ := decimal_cancel hx hy (List.cons.inj h).2
  obtain ⟨line, character⟩ := p
  obtain ⟨line', character'⟩ := q
  obtain rfl : line = line' := UInt32.toNat_inj.1 hline
  obtain rfl : character = character' := UInt32.toNat_inj.1 hcharacter
  exact ⟨rfl, hrest⟩

theorem Range.mark_cancel {r r' : Range} {xs ys : List UInt8} (hx : NoDigit xs)
    (hy : NoDigit ys) (h : Text.bytes r.mark ++ xs = Text.bytes r'.mark ++ ys) :
    r = r' ∧ xs = ys := by
  have hdash : Text.bytes "-" = [0x2D] := by decide
  simp only [Range.mark, Text.bytes_append, hdash, List.append_assoc, List.singleton_append] at h
  obtain ⟨hstart, h⟩ := Position.mark_cancel (noDigit_cons (by decide))
    (noDigit_cons (by decide)) h
  obtain ⟨hstop, hrest⟩ := Position.mark_cancel hx hy (List.cons.inj h).2
  obtain ⟨start, stop⟩ := r
  obtain ⟨start', stop'⟩ := r'
  obtain rfl : start = start' := hstart
  obtain rfl : stop = stop' := hstop
  exact ⟨rfl, hrest⟩

-- ============================================ levels

/-- What an identity keeps of an item: its document and its range. -/
structure Place where
  document : String
  range : Range
  deriving DecidableEq

namespace Place

/-- The place of an item. -/
def ofItem (i : Item) : Place := ⟨i.uri.text, i.range⟩

/-- A place as one level of an identity. -/
def mark (d : Direction) (p : Place) : String :=
  d.tag ++ "|" ++ Json.escaped p.document ++ "|" ++ p.range.mark

/-- A level shows where it ends, if no digit follows. -/
theorem mark_cancel {d e : Direction} {p q : Place} {xs ys : List UInt8} (hx : NoDigit xs)
    (hy : NoDigit ys) (h : Text.bytes (p.mark d) ++ xs = Text.bytes (q.mark e) ++ ys) :
    d = e ∧ p = q ∧ xs = ys := by
  simp only [mark, Text.bytes_append, List.append_assoc] at h
  obtain ⟨hd, h⟩ := tag_cancel h
  obtain ⟨hdocument, h⟩ := escaped_cancel (List.append_cancel_left h)
  obtain ⟨hrange, hrest⟩ := Range.mark_cancel hx hy (List.append_cancel_left h)
  obtain ⟨document, range⟩ := p
  obtain ⟨document', range'⟩ := q
  obtain rfl : document = document' := hdocument
  obtain rfl : range = range' := hrange
  exact ⟨hd, rfl, hrest⟩

/-- The levels behind the first one. -/
def others (d : Direction) : List Place → List UInt8
  | [] => []
  | p :: rest => 0x2F :: (Text.bytes (p.mark d) ++ others d rest)

theorem noDigit_others (d : Direction) (ps : List Place) : NoDigit (others d ps) := by
  cases ps with
  | nil => exact noDigit_nil
  | cons p rest => exact noDigit_cons (by decide)

theorem bytes_levels (d : Direction) (p : Place) (rest : List Place) :
    Text.bytes ("/".intercalate ((p :: rest).map (mark d)))
      = Text.bytes (p.mark d) ++ others d rest := by
  induction rest generalizing p with
  | nil => rw [List.map_singleton, String.intercalate_singleton, others, List.append_nil]
  | cons q rest ih =>
      have hslash : Text.bytes "/" = [0x2F] := by decide
      rw [List.map_cons, List.map_cons, String.intercalate_cons_cons, ← List.map_cons,
        Text.bytes_append, Text.bytes_append, ih q, hslash, List.append_assoc,
        List.singleton_append]
      rfl

/-- Levels can be told from their text. -/
theorem levels_cancel {d e : Direction} {p q : Place} {ps qs : List Place}
    (h : Text.bytes (p.mark d) ++ others d ps = Text.bytes (q.mark e) ++ others e qs) :
    d = e ∧ p :: ps = q :: qs := by
  induction ps generalizing p q qs with
  | nil =>
      obtain ⟨hd, hp, hrest⟩ := mark_cancel (noDigit_others d []) (noDigit_others e qs) h
      cases qs with
      | nil => exact ⟨hd, by rw [hp]⟩
      | cons q' qs => cases hrest
  | cons p' ps ih =>
      obtain ⟨hd, hp, hrest⟩ := mark_cancel (noDigit_others d (p' :: ps)) (noDigit_others e qs) h
      cases qs with
      | nil => cases hrest
      | cons q' qs =>
          obtain ⟨-, hothers⟩ := ih (List.cons.inj hrest).2
          exact ⟨hd, by rw [hp, hothers]⟩

end Place

-- ============================================ identities

/-- The places of a node and of its ancestors, up to the root. -/
def Node.places (n : Node) : List Place := n.ancestors.map fun a => .ofItem a.item

theorem Node.places_ne_nil (n : Node) : n.places ≠ [] := by
  rw [Node.places, ne_eq, List.map_eq_nil_iff]
  exact n.ancestors_ne_nil

/-- An identity depends on direction and places alone. -/
theorem Node.identity_eq (d : Direction) (n : Node) :
    n.identity d = "/".intercalate (n.places.map (Place.mark d)) := by
  rw [Node.identity, Node.places, List.map_map]
  rfl

/-- Places agree exactly if the documents and the ranges of both chains do. -/
theorem Node.places_eq_iff (a b : Node) :
    a.places = b.places ↔
      a.ancestors.map (·.item.uri.text) = b.ancestors.map (·.item.uri.text)
        ∧ a.ancestors.map (·.item.range) = b.ancestors.map (·.item.range) := by
  have hzip : ∀ n : Node, n.places
      = List.zipWith Place.mk (n.ancestors.map (·.item.uri.text))
          (n.ancestors.map (·.item.range)) := by
    intro n
    rw [List.zipWith_map, List.zipWith_self]
    rfl
  have hdocuments : ∀ n : Node,
      n.ancestors.map (·.item.uri.text) = n.places.map Place.document := by
    intro n
    rw [Node.places, List.map_map]
    rfl
  have hranges : ∀ n : Node, n.ancestors.map (·.item.range) = n.places.map Place.range := by
    intro n
    rw [Node.places, List.map_map]
    rfl
  constructor
  · intro h
    rw [hdocuments, hdocuments, hranges, hranges, h]
    exact ⟨rfl, rfl⟩
  · rintro ⟨ht, hr⟩
    rw [hzip, hzip, ht, hr]

/-- Identities agree exactly if the directions do, and if the chains up to the root have the same
length and, level by level, the same document and the same range. -/
theorem Node.identity_eq_iff (a b : Node) (d e : Direction) :
    a.identity d = b.identity e ↔
      d = e ∧ a.ancestors.map (·.item.uri.text) = b.ancestors.map (·.item.uri.text)
        ∧ a.ancestors.map (·.item.range) = b.ancestors.map (·.item.range) := by
  rw [← Node.places_eq_iff, Node.identity_eq, Node.identity_eq]
  constructor
  · intro h
    have hbytes := congrArg Text.bytes h
    obtain ⟨p, ps, ha⟩ := List.exists_cons_of_ne_nil a.places_ne_nil
    obtain ⟨q, qs, hb⟩ := List.exists_cons_of_ne_nil b.places_ne_nil
    rw [ha, hb] at hbytes ⊢
    rw [Place.bytes_levels, Place.bytes_levels] at hbytes
    exact Place.levels_cancel hbytes
  · rintro ⟨rfl, hplaces⟩
    rw [hplaces]

end CallExplorer
