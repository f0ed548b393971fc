/-
Documents are read as they are written.

The reader is complete for the grammar: from any text of a document, and whatever follows it, it
makes that document and leaves what follows (`readPart_written`). The induction is on how the
text is built; the reader's fuel shrinks by one with every call, and every call has at least one
byte more behind it than the calls that it makes, so the length of the text is fuel enough.
-/
import CallExplorer.Json.Decoder
import CallExplorer.Proofs.Json.Numbers
import CallExplorer.Proofs.Json.Strings

namespace CallExplorer

namespace Doc

-- ============================================ blanks

theorem skipSpace_cons {b : UInt8} (hb : isSpace b = true) (bs : List UInt8) :
    skipSpace (b :: bs) = skipSpace bs := by
  rw [skipSpace, List.dropWhile_cons_of_pos hb, skipSpace]

theorem skipSpace_of_not {b : UInt8} (hb : isSpace b = false) (bs : List UInt8) :
    skipSpace (b :: bs) = b :: bs := by
  rw [skipSpace, List.dropWhile_cons_of_neg (by simp [hb])]

theorem skipSpace_append {sp : List UInt8} (hsp : ∀ b ∈ sp, isSpace b = true) (bs : List UInt8) :
    skipSpace (sp ++ bs) = skipSpace bs := by
  rw [skipSpace, List.dropWhile_append_of_pos hsp, skipSpace]

theorem skipSpace_skipSpace (bs : List UInt8) : skipSpace (skipSpace bs) = skipSpace bs := by
  induction bs with
  | nil => rfl
  | cons b bs ih =>
      cases hb : isSpace b with
      | true => rw [skipSpace_cons hb, ih]
      | false => rw [skipSpace_of_not hb, skipSpace_of_not hb]

/-- Blanks in front of a value do not matter. -/
theorem readValue_skipSpace (fuel : Nat) (bs : List UInt8) :
    readValue fuel (skipSpace bs) = readValue fuel bs := by
  cases fuel with
  | zero => rfl
  | succ fuel => rw [readValue, readValue, skipSpace_skipSpace]

/-- Reads a piece of a document. -/
def readPart : (p : Part) → (fuel : Nat) → (first : Bool) → List UInt8 →
    Doc p × Option (List UInt8)
  | .value, fuel, _, bs => readValue fuel bs
  | .items, fuel, first, bs => readItems fuel first bs
  | .members, fuel, first, bs => readMembers fuel first bs

theorem readPart_cons {b : UInt8} (hb : isSpace b = true) (p : Part) (fuel : Nat) (first : Bool)
    (bs : List UInt8) : readPart p (fuel + 1) first (b :: bs) = readPart p (fuel + 1) first bs := by
  cases p with
  | value => rw [readPart, readPart, readValue, readValue, skipSpace_cons hb]
  | items => rw [readPart, readPart, readItems, readItems, skipSpace_cons hb]
  | members => rw [readPart, readPart, readMembers, readMembers, skipSpace_cons hb]

-- ============================================ how pieces begin

/-- A number begins with a minus sign or a digit; neither opens or closes anything. -/
theorem not_space_of_digit {b : UInt8} (hb : isDigit b = true) :
    isSpace b = false ∧ b ≠ 0x7B ∧ b ≠ 0x5B ∧ b ≠ 0x22 ∧ b ≠ 0x2D ∧ b ≠ 0x5D := by
  refine ⟨?_, ?_, ?_, ?_, ?_, ?_⟩
  · simp only [isSpace, Bool.or_eq_false_iff, beq_eq_false_iff_ne]
    refine ⟨⟨⟨?_, ?_⟩, ?_⟩, ?_⟩
    all_goals
      rintro rfl
      exact absurd hb (by decide)
  all_goals
    rintro rfl
    exact absurd hb (by decide)

/-- Behind its blanks a value begins with something other than a closing bracket. -/
theorem Written.value_head {first : Bool} {p : Part} {d : Doc p} {bs : List UInt8}
    (h : Written first d bs) (hp : p = .value) (rest : List UInt8) :
    ∃ b left, skipSpace (bs ++ rest) = b :: left ∧ b ≠ 0x5D := by
  induction h with
  | blank hb _ ih =>
      obtain ⟨c, left, hc, hne⟩ := ih hp
      exact ⟨c, left, by rw [List.cons_append, skipSpace_cons hb, hc], hne⟩
  | positive _ hn =>
      obtain ⟨d, left, rfl, hd⟩ := hn.head
      obtain ⟨hspace, -, -, -, -, hne⟩ := not_space_of_digit hd
      exact ⟨d, left ++ rest, by rw [List.cons_append, skipSpace_of_not hspace], hne⟩
  | null => exact ⟨0x6E, _, rfl, by decide⟩
  | boolTrue => exact ⟨0x74, _, rfl, by decide⟩
  | boolFalse => exact ⟨0x66, _, rfl, by decide⟩
  | negative _ _ => exact ⟨0x2D, _, rfl, by decide⟩
  | text _ => exact ⟨0x22, _, rfl, by decide⟩
  | array _ _ => exact ⟨0x5B, _, rfl, by decide⟩
  | object _ _ => exact ⟨0x7B, _, rfl, by decide⟩
  | noItems => cases hp
  | firstItem _ _ _ _ => cases hp
  | nextItem _ _ _ _ => cases hp
  | noMembers => cases hp
  | firstMember _ _ _ _ _ _ => cases hp
  | nextMember _ _ _ _ _ _ _ => cases hp

/-- What follows an item or a member may follow a value. -/
theorem Written.stops {first : Bool} {p : Part} {d : Doc p} {bs : List UInt8}
    (h : Written first d bs) (hp : p ≠ .value) (hfirst : first = false) (rest : List UInt8) :
    Stops (bs ++ rest) := by
  have hcons {b : UInt8} {left : List UInt8}
      (hb : isSpace b = true ∨ b = 0x2C ∨ b = 0x5D ∨ b = 0x7D) : Stops (b :: left) := by
    intro b' left' heq
    cases heq
    exact hb
  cases h with
  | blank hb _ => exact hcons (.inl hb)
  | noItems => exact hcons (.inr (.inr (.inl rfl)))
  | noMembers => exact hcons (.inr (.inr (.inr rfl)))
  | nextItem _ _ => exact hcons (.inr (.inl rfl))
  | nextMember _ _ _ _ _ => exact hcons (.inr (.inl rfl))
  | firstItem _ _ => cases hfirst
  | firstMember _ _ _ _ => cases hfirst
  | null => exact absurd rfl hp
  | boolTrue => exact absurd rfl hp
  | boolFalse => exact absurd rfl hp
  | negative _ _ => exact absurd rfl hp
  | positive _ _ => exact absurd rfl hp
  | text _ => exact absurd rfl hp
  | array _ => exact absurd rfl hp
  | object _ => exact absurd rfl hp

theorem Written.length_pos {first : Bool} {p : Part} {d : Doc p} {bs : List UInt8}
    (h : Written first d bs) : 0 < bs.length := by
  cases h with
  | positive _ hn =>
      obtain ⟨d, left, rfl, -⟩ := hn.head
      exact Nat.succ_pos _
  | firstItem hv hitems =>
      have := hitems.length_pos
      rw [List.length_append]
      omega
  | _ => exact Nat.succ_pos _

-- ============================================ one call of the reader

theorem readValue_array {fuel : Nat} {bs rest : List UInt8} {items : Doc .items}
    (h : readItems fuel true bs = (items, some rest)) :
    readValue (fuel + 1) (0x5B :: bs) = (.array items, some rest) := by
  rw [readValue, skipSpace_of_not (by decide)]
  simp only [h, if_true, if_false, show (0x5B : UInt8) ≠ 0x7B by decide]

theorem readValue_object {fuel : Nat} {bs rest : List UInt8} {members : Doc .members}
    (h : readMembers fuel true bs = (members, some rest)) :
    readValue (fuel + 1) (0x7B :: bs) = (.object members, some rest) := by
  rw [readValue, skipSpace_of_not (by decide)]
  simp only [h, if_true]

theorem readValue_text (fuel : Nat) {s : String} {bs rest : List UInt8} (h : Quoted s bs) :
    readValue (fuel + 1) (0x22 :: (bs ++ rest)) = (.text (.ok s), some rest) := by
  rw [readValue, skipSpace_of_not (by decide)]
  simp only [readText_quoted h, if_true, if_false, show (0x22 : UInt8) ≠ 0x7B by decide,
    show (0x22 : UInt8) ≠ 0x5B by decide, leaf]

theorem readValue_negative (fuel : Nat) {n : Numeral} {bs rest : List UInt8}
    (hn : n.negative = true) (h : Unsigned n bs) (hrest : Stops rest) :
    readValue (fuel + 1) (0x2D :: (bs ++ rest)) = (.number n.value, some rest) := by
  have hread := readNumber_eq h hrest
  rw [hn] at hread
  rw [readValue, skipSpace_of_not (by decide)]
  simp only [hread, if_true, if_false, show (0x2D : UInt8) ≠ 0x7B by decide,
    show (0x2D : UInt8) ≠ 0x5B by decide, show (0x2D : UInt8) ≠ 0x22 by decide, Except.map, leaf]

theorem readValue_positive (fuel : Nat) {n : Numeral} {bs rest : List UInt8}
    (hn : n.negative = false) (h : Unsigned n bs) (hrest : Stops rest) :
    readValue (fuel + 1) (bs ++ rest) = (.number n.value, some rest) := by
  have hread := readNumber_eq h hrest
  obtain ⟨d, left, rfl, hd⟩ := h.head
  obtain ⟨hspace, hbrace, hbracket, hquote, hminus, -⟩ := not_space_of_digit hd
  rw [hn] at hread
  rw [List.cons_append] at hread
  rw [List.cons_append, readValue, skipSpace_of_not hspace]
  simp only [hread, hbrace, hbracket, hquote, hminus, hd, if_true, if_false, Except.map, leaf]

/-- An item and what follows it, behind the blanks in front of the item. -/
theorem readItems_first {fuel : Nat} {bs mid rest : List UInt8} {v : Doc .value}
    {items : Doc .items} (hhead : ∃ b left, skipSpace bs = b :: left ∧ b ≠ 0x5D)
    (hv : readValue fuel bs = (v, some mid))
    (hrest : readItems fuel false mid = (items, some rest)) :
    readItems (fuel + 1) true bs = (.item v items, some rest) := by
  obtain ⟨b, left, hb, hne⟩ := hhead
  have hskip : readValue fuel (b :: left) = (v, some mid) := by
    rw [← hb, readValue_skipSpace, hv]
  rw [readItems]
  simp only [hb, hne, if_false, if_true, hskip, hrest]

theorem readItems_next {fuel : Nat} {bs mid rest : List UInt8} {v : Doc .value}
    {items : Doc .items} (hhead : ∃ b left, skipSpace bs = b :: left ∧ b ≠ 0x5D)
    (hv : readValue fuel bs = (v, some mid))
    (hrest : readItems fuel false mid = (items, some rest)) :
    readItems (fuel + 1) false (0x2C :: bs) = (.item v items, some rest) := by
  obtain ⟨b, left, hb, hne⟩ := hhead
  have hskip : readValue fuel (b :: left) = (v, some mid) := by
    rw [← hb, readValue_skipSpace, hv]
  rw [readItems, skipSpace_of_not (by decide)]
  simp only [hb, hne, if_false, if_true, hskip, hrest, show (0x2C : UInt8) ≠ 0x5D by decide,
    Bool.false_eq_true]

theorem readMembers_first {fuel : Nat} {k : String} {ks sp bs mid rest : List UInt8}
    {v : Doc .value} {members : Doc .members} (hk : Quoted k ks)
    (hsp : ∀ b ∈ sp, isSpace b = true) (hv : readValue fuel bs = (v, some mid))
    (hrest : readMembers fuel false mid = (members, some rest)) :
    readMembers (fuel + 1) true (0x22 :: (ks ++ (sp ++ 0x3A :: bs)))
      = (.member (.ok k) v members, some rest) := by
  have hcolon : skipSpace (sp ++ 0x3A :: bs) = 0x3A :: bs := by
    rw [skipSpace_append hsp, skipSpace_of_not (by decide)]
  rw [readMembers, skipSpace_of_not (by decide)]
  simp only [readText_quoted hk, hcolon, hv, hrest, if_false, if_true,
    show (0x22 : UInt8) ≠ 0x7D by decide]

theorem readMembers_next {fuel : Nat} {k : String} {sp' ks sp bs mid rest : List UInt8}
    {v : Doc .value} {members : Doc .members} (hsp' : ∀ b ∈ sp', isSpace b = true)
    (hk : Quoted k ks) (hsp : ∀ b ∈ sp, isSpace b = true)
    (hv : readValue fuel bs = (v, some mid))
    (hrest : readMembers fuel false mid = (members, some rest)) :
    readMembers (fuel + 1) false (0x2C :: (sp' ++ 0x22 :: (ks ++ (sp ++ 0x3A :: bs))))
      = (.member (.ok k) v members, some rest) := by
  have hcolon : skipSpace (sp ++ 0x3A :: bs) = 0x3A :: bs := by
    rw [skipSpace_append hsp, skipSpace_of_not (by decide)]
  have hquote : skipSpace (sp' ++ 0x22 :: (ks ++ (sp ++ 0x3A :: bs)))
      = 0x22 :: (ks ++ (sp ++ 0x3A :: bs)) := by
    rw [skipSpace_append hsp', skipSpace_of_not (by decide)]
  rw [readMembers, skipSpace_of_not (by decide)]
  simp only [hquote, readText_quoted hk, hcolon, hv, hrest, if_false, if_true,
    show (0x2C : UInt8) ≠ 0x7D by decide, Bool.false_eq_true]

-- ============================================ all calls

/-- A piece of a document is read from each of its texts, with fuel for every byte. Only behind
a value it matters what comes next, since a number could go on. -/
theorem readPart_written {first : Bool} {p : Part} {d : Doc p} {bs : List UInt8}
    (h : Written first d bs) :
    ∀ (fuel : Nat) (rest : List UInt8), bs.length ≤ fuel → (p = .value → Stops rest) →
      readPart p fuel first (bs ++ rest) = (d, some rest) := by
  induction h with
  | @blank first p d b bs hb _ ih =>
      intro fuel rest hfuel hrest
      obtain ⟨fuel, rfl⟩ := Nat.exists_eq_add_one_of_ne_zero (n := fuel) (by grind)
      rw [List.cons_append, readPart_cons hb]
      exact ih _ rest (by grind) hrest
  | null =>
      intro fuel rest hfuel _
      obtain ⟨fuel, rfl⟩ := Nat.exists_eq_add_one_of_ne_zero (n := fuel) (by grind)
      rfl
  | boolTrue =>
      intro fuel rest hfuel _
      obtain ⟨fuel, rfl⟩ := Nat.exists_eq_add_one_of_ne_zero (n := fuel) (by grind)
      rfl
  | boolFalse =>
      intro fuel rest hfuel _
      obtain ⟨fuel, rfl⟩ := Nat.exists_eq_add_one_of_ne_zero (n := fuel) (by grind)
      rfl
  | negative hn h =>
      intro fuel rest hfuel hrest
      obtain ⟨fuel, rfl⟩ := Nat.exists_eq_add_one_of_ne_zero (n := fuel) (by grind)
      exact readValue_negative fuel hn h (hrest rfl)
  | positive hn h =>
      intro fuel rest hfuel hrest
      obtain ⟨d, left, rfl, -⟩ := h.head
      obtain ⟨fuel, rfl⟩ := Nat.exists_eq_add_one_of_ne_zero (n := fuel) (by grind)
      exact readValue_positive fuel hn h (hrest rfl)
  | text h =>
      intro fuel rest hfuel _
      obtain ⟨fuel, rfl⟩ := Nat.exists_eq_add_one_of_ne_zero (n := fuel) (by grind)
      exact readValue_text fuel h
  | array _ ih =>
      intro fuel rest hfuel _
      obtain ⟨fuel, rfl⟩ := Nat.exists_eq_add_one_of_ne_zero (n := fuel) (by grind)
      exact readValue_array (ih fuel rest (by grind) (by rintro ⟨⟩))
  | object _ ih =>
      intro fuel rest hfuel _
      obtain ⟨fuel, rfl⟩ := Nat.exists_eq_add_one_of_ne_zero (n := fuel) (by grind)
      exact readValue_object (ih fuel rest (by grind) (by rintro ⟨⟩))
  | noItems =>
      intro fuel rest hfuel _
      obtain ⟨fuel, rfl⟩ := Nat.exists_eq_add_one_of_ne_zero (n := fuel) (by grind)
      rfl
  | noMembers =>
      intro fuel rest hfuel _
      obtain ⟨fuel, rfl⟩ := Nat.exists_eq_add_one_of_ne_zero (n := fuel) (by grind)
      rfl
  | @firstItem v items bs cs hv hitems ihv ihitems =>
      intro fuel rest hfuel _
      obtain ⟨fuel, rfl⟩ := Nat.exists_eq_add_one_of_ne_zero (n := fuel) (by grind [hv.length_pos])
      have hlv := hv.length_pos
      have hli := hitems.length_pos
      rw [List.length_append] at hfuel
      rw [List.append_assoc]
      exact readItems_first (hv.value_head rfl _)
        (ihv fuel (cs ++ rest) (by omega) fun _ => hitems.stops (by rintro ⟨⟩) rfl rest)
        (ihitems fuel rest (by omega) (by rintro ⟨⟩))
  | @nextItem v items bs cs hv hitems ihv ihitems =>
      intro fuel rest hfuel _
      obtain ⟨fuel, rfl⟩ := Nat.exists_eq_add_one_of_ne_zero (n := fuel) (by grind)
      have hlv := hv.length_pos
      have hli := hitems.length_pos
      simp only [List.length_cons, List.length_append] at hfuel
      rw [List.cons_append, List.append_assoc]
      exact readItems_next (hv.value_head rfl _)
        (ihv fuel (cs ++ rest) (by omega) fun _ => hitems.stops (by rintro ⟨⟩) rfl rest)
        (ihitems fuel rest (by omega) (by rintro ⟨⟩))
  | @firstMember k v members ks sp bs cs hk hsp hv hmembers ihv ihmembers =>
      intro fuel rest hfuel _
      obtain ⟨fuel, rfl⟩ := Nat.exists_eq_add_one_of_ne_zero (n := fuel) (by grind)
      simp only [List.length_cons, List.length_append] at hfuel
      simp only [List.cons_append, List.append_assoc]
      exact readMembers_first hk hsp
        (ihv fuel (cs ++ rest) (by omega) fun _ => hmembers.stops (by rintro ⟨⟩) rfl rest)
        (ihmembers fuel rest (by omega) (by rintro ⟨⟩))
  | @nextMember k v members sp' ks sp bs cs hsp' hk hsp hv hmembers ihv ihmembers =>
      intro fuel rest hfuel _
      obtain ⟨fuel, rfl⟩ := Nat.exists_eq_add_one_of_ne_zero (n := fuel) (by grind)
      simp only [List.length_cons, List.length_append] at hfuel
      simp only [List.cons_append, List.append_assoc]
      exact readMembers_next hsp' hk hsp
        (ihv fuel (cs ++ rest) (by omega) fun _ => hmembers.stops (by rintro ⟨⟩) rfl rest)
        (ihmembers fuel rest (by omega) (by rintro ⟨⟩))

end Doc

-- ============================================ whole texts

/-- A text of a document is read as that document, with nothing behind it. -/
theorem Document.read_doc {d : Doc .value} {bs sp : List UInt8} (h : Doc.Written true d bs)
    (hsp : ∀ b ∈ sp, Doc.isSpace b = true) : Document.read (bs ++ sp) = ⟨d, false⟩ := by
  have hstops : Doc.Stops sp := by
    intro b left heq
    subst heq
    exact .inl (hsp b List.mem_cons_self)
  have hread : Doc.readValue (2 * (bs ++ sp).length + 1) (bs ++ sp) = (d, some sp) :=
    Doc.readPart_written h (2 * (bs ++ sp).length + 1) sp (by grind) fun _ => hstops
  have hblank : Doc.skipSpace sp = [] := by
    have := Doc.skipSpace_append hsp []
    rwa [List.append_nil] at this
  rw [Document.read, hread]
  simp only [hblank]
  rfl

/-- A text is decoded as the document that it is read as. -/
theorem decodeText_read {α : Type} {decode : Decoder α} {d : Doc .value} {text : List UInt8} {x : α}
    (h : Document.read text = ⟨d, false⟩) (hdecode : decode (.text maxLevels) d = .ok x) :
    decodeText decode text = .ok x := by
  rw [decodeText, h]
  show (decode (.text maxLevels) d).bind _ = _
  rw [hdecode]
  rfl

theorem decodeText_doc {α : Type} {decode : Decoder α} {d : Doc .value} {bs sp : List UInt8} {x : α}
    (h : Doc.Written true d bs) (hsp : ∀ b ∈ sp, Doc.isSpace b = true)
    (hdecode : decode (.text maxLevels) d = .ok x) : decodeText decode (bs ++ sp) = .ok x :=
  decodeText_read (Document.read_doc h hsp) hdecode

/-- A text of a value is read as the document of that value, with nothing behind it. -/
theorem Document.read_written {v : Json} {text : List UInt8} (h : v.WrittenAs text) :
    Document.read text = ⟨Doc.ofJson v, false⟩ := by
  obtain ⟨bs, sp, hv, hsp, rfl⟩ := h
  exact read_doc hv hsp

/-- A text of a value is decoded as that value is. -/
theorem decodeText_written {α : Type} {decode : Decoder α} {v : Json} {text : List UInt8} {x : α}
    (h : v.WrittenAs text) (hdecode : decode (.text maxLevels) (Doc.ofJson v) = .ok x) :
    decodeText decode text = .ok x :=
  decodeText_read (Document.read_written h) hdecode

-- ============================================ one text, one value

namespace Doc

mutual

/-- Different values have different documents. -/
theorem ofJson_injective : (v w : Json) → ofJson v = ofJson w → v = w
  | .null, w, h => by cases w <;> first | rfl | cases h
  | .bool _, w, h => by cases w <;> cases h; rfl
  | .int _, w, h => by cases w <;> cases h; rfl
  | .float _, w, h => by cases w <;> cases h; rfl
  | .text _, w, h => by cases w <;> cases h; rfl
  | .array vs, w, h => by
    cases w with
    | array ws =>
        injection h with h
        rw [ofItems_injective vs ws h]
    | _ => cases h
  | .object ms, w, h => by
    cases w with
    | object ns =>
        injection h with h
        rw [ofMembers_injective ms ns h]
    | _ => cases h
termination_by structural v => v

theorem ofItems_injective : (vs ws : List Json) → ofItems vs = ofItems ws → vs = ws
  | [], ws, h => by
    cases ws with
    | nil => rfl
    | cons w ws => cases h
  | v :: vs, ws, h => by
    cases ws with
    | nil => cases h
    | cons w ws =>
        injection h with hv hvs
        rw [ofJson_injective v w hv, ofItems_injective vs ws hvs]
termination_by structural vs => vs

theorem ofMembers_injective :
    (ms ns : List (String × Json)) → ofMembers ms = ofMembers ns → ms = ns
  | [], ns, h => by
    cases ns with
    | nil => rfl
    | cons n ns => cases h
  | (k, v) :: ms, ns, h => by
    cases ns with
    | nil => cases h
    | cons n ns =>
        injection h with hk hv hms
        injection hk with hk
        rw [hk, ofJson_injective v n.2 hv, ofMembers_injective ms ns hms]
termination_by structural ms => ms

end

end Doc

/-- No text is a text of two values. -/
theorem Json.writtenAs_unique {v w : Json} {text : List UInt8} (hv : v.WrittenAs text)
    (hw : w.WrittenAs text) : v = w := by
  have hread := (Document.read_written hv).symm.trans (Document.read_written hw)
  injection hread with hdoc
  exact Doc.ofJson_injective v w hdoc

end CallExplorer
