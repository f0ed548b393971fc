/-
Indented texts belong to the grammar.

The indented text of a value differs from the compact one in blanks alone: a line break and spaces
before each item, each member and each closing bracket, and a space behind each colon. The grammar
has blanks in all these places, so the indented text is one of the texts of the value as well.

The blanks in front of a closing bracket belong to whatever array or object is being closed, and
that is known only outside. The induction therefore carries the pieces of an array or an object
together with any such blanks and the bracket.
-/
import CallExplorer.Proofs.Json.Printing

namespace CallExplorer

namespace Json

-- ============================================ what goes before

mutual

/-- What was written before stays as it is. -/
theorem indentedOnto_eq (out : String) (level : Nat) :
    (v : Json) → v.indentedOnto out level = out ++ v.indentedOnto "" level
  | .array [] => by simp [indentedOnto]
  | .array (v :: rest) => by
    have split (s : String) : (Json.array (v :: rest)).indentedOnto s level
        = indentedItems (s ++ "[") (level + 1) (v :: rest) ++ lineBreak level ++ "]" := rfl
    rw [split out, split "", indentedItems_eq (out ++ "["), indentedItems_eq ("" ++ "[")]
    simp [String.append_assoc]
  | .object [] => by simp [indentedOnto]
  | .object (m :: rest) => by
    have split (s : String) : (Json.object (m :: rest)).indentedOnto s level
        = indentedMembers (s ++ "\x7b") (level + 1) (m :: rest) ++ lineBreak level ++ "\x7d" := rfl
    rw [split out, split "", indentedMembers_eq (out ++ "\x7b"), indentedMembers_eq ("" ++ "\x7b")]
    simp [String.append_assoc]
  | .null => by simp [indentedOnto]
  | .bool b => by simp [indentedOnto]
  | .int n => by simp [indentedOnto]
  | .float x => by simp [indentedOnto]
  | .text s => by simp [indentedOnto]

/-- The same for the items of an array. -/
theorem indentedItems_eq (out : String) (level : Nat) :
    (items : List Json) → indentedItems out level items = out ++ indentedItems "" level items
  | [] => by simp [indentedItems]
  | [v] => by
    rw [indentedItems, indentedItems, indentedOnto_eq (out ++ lineBreak level) level v,
      indentedOnto_eq ("" ++ lineBreak level) level v]
    simp [String.append_assoc]
  | v :: w :: rest => by
    have split (s : String) : indentedItems s level (v :: w :: rest)
        = indentedItems (v.indentedOnto (s ++ lineBreak level) level ++ ",") level (w :: rest) :=
      rfl
    rw [split out, split "", indentedItems_eq (_ ++ ",") level (w :: rest),
      indentedItems_eq (v.indentedOnto ("" ++ lineBreak level) level ++ ",") level (w :: rest),
      indentedOnto_eq (out ++ lineBreak level) level v,
      indentedOnto_eq ("" ++ lineBreak level) level v]
    simp [String.append_assoc]

/-- The same for the members of an object. -/
theorem indentedMembers_eq (out : String) (level : Nat) :
    (members : List (String × Json)) →
      indentedMembers out level members = out ++ indentedMembers "" level members
  | [] => by simp [indentedMembers]
  | [(k, v)] => by
    rw [indentedMembers, indentedMembers,
      indentedOnto_eq (out ++ lineBreak level ++ escaped k ++ ": ") level v,
      indentedOnto_eq ("" ++ lineBreak level ++ escaped k ++ ": ") level v]
    simp [String.append_assoc]
  | (k, v) :: m :: rest => by
    have split (s : String) : indentedMembers s level ((k, v) :: m :: rest)
        = indentedMembers
            (v.indentedOnto (s ++ lineBreak level ++ escaped k ++ ": ") level ++ ",") level
            (m :: rest) := rfl
    rw [split out, split "", indentedMembers_eq (_ ++ ",") level (m :: rest),
      indentedMembers_eq
        (v.indentedOnto ("" ++ lineBreak level ++ escaped k ++ ": ") level ++ ",") level
        (m :: rest),
      indentedOnto_eq (out ++ lineBreak level ++ escaped k ++ ": ") level v,
      indentedOnto_eq ("" ++ lineBreak level ++ escaped k ++ ": ") level v]
    simp [String.append_assoc]

end

-- ============================================ one item after the other

/-- What follows an item in an indented array. -/
def indentedNextItems (level : Nat) : List Json → String
  | [] => ""
  | v :: rest => "," ++ indentedItems "" level (v :: rest)

/-- What follows a member in an indented object. -/
def indentedNextMembers (level : Nat) : List (String × Json) → String
  | [] => ""
  | m :: rest => "," ++ indentedMembers "" level (m :: rest)

/-- The items of an array are the first of them on a line of its own and what follows it. -/
theorem indentedItems_cons (level : Nat) (v : Json) (rest : List Json) :
    indentedItems "" level (v :: rest)
      = lineBreak level ++ v.indentedOnto "" level ++ indentedNextItems level rest := by
  cases rest with
  | nil =>
      rw [indentedItems, indentedNextItems, String.append_empty, indentedOnto_eq,
        String.empty_append]
  | cons w rest =>
      have hsplit : indentedItems "" level (v :: w :: rest)
          = indentedItems (v.indentedOnto ("" ++ lineBreak level) level ++ ",") level (w :: rest) :=
        rfl
      rw [hsplit, indentedItems_eq, indentedNextItems, indentedOnto_eq, String.empty_append,
        String.append_assoc]

theorem indentedMembers_cons (level : Nat) (k : String) (v : Json) (rest : List (String × Json)) :
    indentedMembers "" level ((k, v) :: rest)
      = lineBreak level ++ escaped k ++ ": " ++ v.indentedOnto "" level
          ++ indentedNextMembers level rest := by
  cases rest with
  | nil =>
      rw [indentedMembers, indentedNextMembers, String.append_empty, indentedOnto_eq,
        String.empty_append]
  | cons m rest =>
      have hsplit : indentedMembers "" level ((k, v) :: m :: rest)
          = indentedMembers
              (v.indentedOnto ("" ++ lineBreak level ++ escaped k ++ ": ") level ++ ",") level
              (m :: rest) := rfl
      rw [hsplit, indentedMembers_eq, indentedNextMembers, indentedOnto_eq, String.empty_append,
        String.append_assoc]

end Json

namespace Doc

-- ============================================ blanks

/-- A line break is a blank, and so is the indentation behind it. -/
theorem isSpace_lineBreak (level : Nat) :
    ∀ b ∈ Text.bytes (Json.lineBreak level), isSpace b = true := by
  intro b hb
  rw [Json.lineBreak, Text.bytes_ofList, List.mem_flatMap] at hb
  obtain ⟨c, hc, hb⟩ := hb
  rcases List.mem_cons.1 hc with rfl | hc
  · rw [Text.utf8EncodeChar_ascii (by decide), List.mem_singleton] at hb
    rw [hb]
    rfl
  · rw [List.eq_of_mem_replicate hc, Text.utf8EncodeChar_ascii (by decide),
      List.mem_singleton] at hb
    rw [hb]
    rfl

/-- Blanks before a piece make no difference. -/
theorem Written.blanks {first : Bool} {p : Part} {d : Doc p} {sp bs : List UInt8}
    (hsp : ∀ b ∈ sp, isSpace b = true) (h : Written first d bs) : Written first d (sp ++ bs) := by
  induction sp with
  | nil => exact h
  | cons b sp ih =>
      rw [List.forall_mem_cons] at hsp
      exact .blank hsp.1 (ih hsp.2)

-- ============================================ values

mutual

/-- The indented text of a value is one of its texts. -/
theorem written_indented (level : Nat) : (v : Json) → v.isWhole = true →
    Written true (ofJson v) (Text.bytes (v.indentedOnto "" level))
  | .null, _ => .null
  | .bool true, _ => .boolTrue
  | .bool false, _ => .boolFalse
  | .int n, h => by
    rw [Json.indentedOnto, String.empty_append]
    exact written_int h
  | .text s, _ => by
    obtain ⟨q, hq, hs⟩ := quoted_escaped s
    rw [Json.indentedOnto, String.empty_append, Json.leafText, hq]
    exact .text hs
  | .array [], _ => .array .noItems
  | .array (v :: rest), h => by
    have htext : (Json.array (v :: rest)).indentedOnto "" level
        = "[" ++ (Json.indentedItems "" (level + 1) (v :: rest)
            ++ (Json.lineBreak level ++ "]")) := by
      have hsplit : (Json.array (v :: rest)).indentedOnto "" level
          = Json.indentedItems "[" (level + 1) (v :: rest) ++ Json.lineBreak level ++ "]" := rfl
      rw [hsplit, Json.indentedItems_eq, String.append_assoc, String.append_assoc]
    rw [htext, Text.bytes_append, Text.bytes_append, Text.bytes_append]
    exact .array (written_indentedItems (level + 1) (isSpace_lineBreak level) (v :: rest) h).1
  | .object [], _ => .object .noMembers
  | .object (m :: rest), h => by
    have htext : (Json.object (m :: rest)).indentedOnto "" level
        = "\x7b" ++ (Json.indentedMembers "" (level + 1) (m :: rest)
            ++ (Json.lineBreak level ++ "\x7d")) := by
      have hsplit : (Json.object (m :: rest)).indentedOnto "" level
          = Json.indentedMembers "\x7b" (level + 1) (m :: rest) ++ Json.lineBreak level
              ++ "\x7d" := rfl
      rw [hsplit, Json.indentedMembers_eq, String.append_assoc, String.append_assoc]
    rw [htext, Text.bytes_append, Text.bytes_append, Text.bytes_append]
    exact .object (written_indentedMembers (level + 1) (isSpace_lineBreak level) (m :: rest) h).1

theorem written_indentedItems (level : Nat) {sp : List UInt8} (hsp : ∀ b ∈ sp, isSpace b = true) :
    (items : List Json) → Json.areWhole items = true →
      Written true (ofItems items)
          (Text.bytes (Json.indentedItems "" level items) ++ (sp ++ [0x5D]))
        ∧ Written false (ofItems items)
          (Text.bytes (Json.indentedNextItems level items) ++ (sp ++ [0x5D]))
  | [], _ => by
    have hclosed : ∀ first, Written first .noItems (sp ++ [0x5D]) := fun _ => .blanks hsp .noItems
    exact ⟨hclosed true, hclosed false⟩
  | v :: rest, h => by
    rw [Json.areWhole, Bool.and_eq_true] at h
    have hv := (written_indented level v h.1).blanks (isSpace_lineBreak level)
    have hrest := (written_indentedItems level hsp rest h.2).2
    have hitems : Text.bytes (Json.indentedItems "" level (v :: rest)) ++ (sp ++ [0x5D])
        = (Text.bytes (Json.lineBreak level) ++ Text.bytes (v.indentedOnto "" level))
          ++ (Text.bytes (Json.indentedNextItems level rest) ++ (sp ++ [0x5D])) := by
      rw [Json.indentedItems_cons, Text.bytes_append, Text.bytes_append, List.append_assoc]
    have hfirst := Written.firstItem hv hrest
    have hnext := Written.nextItem hv hrest
    rw [Json.indentedNextItems, Text.bytes_append, List.append_assoc, hitems]
    exact ⟨hfirst, hnext⟩

theorem written_indentedMembers (level : Nat) {sp : List UInt8}
    (hsp : ∀ b ∈ sp, isSpace b = true) :
    (members : List (String × Json)) → Json.haveWhole members = true →
      Written true (ofMembers members)
          (Text.bytes (Json.indentedMembers "" level members) ++ (sp ++ [0x7D]))
        ∧ Written false (ofMembers members)
          (Text.bytes (Json.indentedNextMembers level members) ++ (sp ++ [0x7D]))
  | [], _ => by
    have hclosed : ∀ first, Written first .noMembers (sp ++ [0x7D]) :=
      fun _ => .blanks hsp .noMembers
    exact ⟨hclosed true, hclosed false⟩
  | (k, v) :: rest, h => by
    rw [Json.haveWhole, Bool.and_eq_true] at h
    have hbreak := isSpace_lineBreak level
    have hv : Written true (ofJson v) (0x20 :: Text.bytes (v.indentedOnto "" level)) :=
      .blank rfl (written_indented level v h.1)
    have hrest := (written_indentedMembers level hsp rest h.2).2
    obtain ⟨q, hq, hk⟩ := quoted_escaped k
    have hnone : ∀ b ∈ ([] : List UInt8), isSpace b = true := fun b hb => by cases hb
    have hfirst := (@Written.firstMember k _ _ q [] _ _ hk hnone hv hrest).blanks hbreak
    have hnext := @Written.nextMember k _ _ _ q [] _ _ hbreak hk hnone hv hrest
    have hmembers : Text.bytes (Json.indentedMembers "" level ((k, v) :: rest)) ++ (sp ++ [0x7D])
        = Text.bytes (Json.lineBreak level) ++ 0x22 :: (q ++ ([] ++ 0x3A ::
            (0x20 :: Text.bytes (v.indentedOnto "" level)
              ++ (Text.bytes (Json.indentedNextMembers level rest) ++ (sp ++ [0x7D]))))) := by
      rw [Json.indentedMembers_cons, Text.bytes_append, Text.bytes_append, Text.bytes_append,
        Text.bytes_append, hq]
      simp only [List.append_assoc, List.cons_append]
      rfl
    rw [Json.indentedNextMembers, Text.bytes_append, List.append_assoc, hmembers]
    exact ⟨hfirst, hnext⟩

end

end Doc

/-- The indented text of a value without doubles and with no number beyond 64 bits is a text of
that value. -/
theorem Json.writtenAs_indented {v : Json} (h : v.isWhole = true) :
    v.WrittenAs (Text.bytes v.indented) := by
  refine ⟨Text.bytes v.indented, [], Doc.written_indented 0 v h, ?_, (List.append_nil _).symm⟩
  intro b hb
  cases hb

end CallExplorer
