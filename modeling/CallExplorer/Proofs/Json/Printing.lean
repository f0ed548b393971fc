/-
Printed texts belong to the grammar.

The compact text of a value is one of the texts that the grammar allows for it. Every character
of a string has a spelling there, and the digits of an integer within 64 bits make that integer.
Doubles are left out: whether the shortest digits of a double read back as the double is a
question of rounding, which no message of the explorer depends on.
-/
import CallExplorer.Json.Printer
import CallExplorer.Proofs.Json.Grammar
import CallExplorer.Proofs.Text.Digits

namespace CallExplorer

namespace Doc

-- ============================================ strings

/-- A control character is the number that its escape says. -/
theorem hexUnit?_control : ∀ n < 32,
    hexUnit? 0x30 0x30 (UInt8.ofNat (Json.hexDigit (n / 16)).toNat)
      (UInt8.ofNat (Json.hexDigit (n % 16)).toNat) = some n := by
  decide

theorem hexDigit_ascii : ∀ n < 16, (Json.hexDigit n).toNat < 128 := by decide

/-- A character is written in one of the ways that the grammar has for it. -/
theorem chars_escapedChar (c : Char) {cs : List Char} {bs : List UInt8} (h : Chars cs bs) :
    Chars (c :: cs) ((Json.escapedChar c).flatMap String.utf8EncodeChar ++ bs) := by
  unfold Json.escapedChar
  by_cases hquote : c = '"'
  · subst hquote
    exact .short (by decide) h
  by_cases hslash : c = '\\'
  · subst hslash
    exact .short (by decide) h
  by_cases hline : c = '\n'
  · subst hline
    exact .short (by decide) h
  by_cases hreturn : c = '\r'
  · subst hreturn
    exact .short (by decide) h
  by_cases htab : c = '\t'
  · subst htab
    exact .short (by decide) h
  rw [if_neg hquote, if_neg hslash, if_neg hline, if_neg hreturn, if_neg htab]
  by_cases hback : c.toNat = 8
  · obtain rfl : c = '\x08' := by rw [← Char.ofNat_toNat c, hback]
    exact .short (by decide) h
  by_cases hfeed : c.toNat = 12
  · obtain rfl : c = '\x0C' := by rw [← Char.ofNat_toNat c, hfeed]
    exact .short (by decide) h
  rw [if_neg hback, if_neg hfeed]
  by_cases hcontrol : c.toNat < 32
  · rw [if_pos hcontrol]
    have hunit : Chars (Char.ofNat c.toNat :: cs) _ :=
      .unit (hexUnit?_control c.toNat hcontrol) (by omega) h
    rw [Char.ofNat_toNat] at hunit
    have hhigh := Text.utf8EncodeChar_ascii (hexDigit_ascii (c.toNat / 16) (by omega))
    have hlow := Text.utf8EncodeChar_ascii (hexDigit_ascii (c.toNat % 16) (by omega))
    simp only [List.flatMap_cons, List.flatMap_nil, hhigh, hlow]
    exact hunit
  · rw [if_neg hcontrol, List.flatMap_cons, List.flatMap_nil, List.append_nil]
    exact .plain hquote hslash (by omega) h

/-- All the characters of a string, and the closing quote. -/
theorem chars_escaped (cs : List Char) :
    Chars cs ((cs.flatMap Json.escapedChar).flatMap String.utf8EncodeChar ++ [0x22]) := by
  induction cs with
  | nil => exact .close
  | cons c cs ih =>
      rw [List.flatMap_cons, List.flatMap_append, List.append_assoc]
      exact chars_escapedChar c ih

/-- A string between quotes is written as the grammar says. -/
theorem quoted_escaped (s : String) :
    ∃ q, Text.bytes (Json.escaped s) = 0x22 :: q ∧ Quoted s q := by
  refine ⟨_, ?_, chars_escaped s.toList⟩
  have hmiddle := Text.bytes_ofList (s.toList.flatMap Json.escapedChar)
  rw [Json.escaped, Text.bytes_append, Text.bytes_append, hmiddle]
  rfl

-- ============================================ numbers

theorem isDigit_digitByte {c : Char} (h : c.isDigit = true) :
    isDigit (Text.digitByte c) = true := by
  have hc := Text.isDigit_bounds h
  have hb := Text.toNat_digitByte h
  simp only [isDigit, Bool.and_eq_true, decide_eq_true_eq, UInt8.le_iff_toNat_le, hb]
  exact hc

/-- Digits are added up as long as 64 bits hold the number. -/
theorem appendFitting_eq {cs : List Char} (hcs : ∀ c ∈ cs, c.isDigit = true) :
    ∀ {n : Nat}, Nat.ofDigitChars 10 cs n < 18446744073709551616 →
      appendFitting n (cs.map Text.digitByte) = (Nat.ofDigitChars 10 cs n, []) := by
  induction cs with
  | nil =>
      intro n _
      rfl
  | cons c cs ih =>
      intro n h
      rw [Nat.ofDigitChars_cons] at h ⊢
      have hb := Text.toNat_digitByte (hcs c List.mem_cons_self)
      have hcomm : n * 10 + (c.toNat - 0x30) = 10 * n + (c.toNat - '0'.toNat) := by
        rw [Nat.mul_comm]
        rfl
      have hle := Text.le_ofDigitChars cs (10 * n + (c.toNat - '0'.toNat))
      rw [List.map_cons, appendFitting]
      simp only [hb, hcomm]
      rw [if_pos (by omega), ih (fun x hx => hcs x (List.mem_cons_of_mem c hx)) h]

/-- The digits of a number, as bytes. -/
def digits (n : Nat) : List UInt8 := (Nat.toDigits 10 n).map Text.digitByte

theorem isDigit_of_mem_digits {n : Nat} {d : UInt8} (h : d ∈ digits n) : isDigit d = true := by
  obtain ⟨c, hc, rfl⟩ := List.mem_map.1 h
  exact isDigit_digitByte (Text.isDigit_of_mem_decimal hc)

theorem digits_injective {m n : Nat} (h : digits m = digits n) : m = n := by
  have hback : ∀ k, (digits k).map (fun b => Char.ofNat b.toNat) = Nat.toDigits 10 k := by
    intro k
    rw [digits, List.map_map]
    refine (List.map_congr_left fun c hc => ?_).trans (List.map_id _)
    show Char.ofNat (Text.digitByte c).toNat = c
    rw [Text.toNat_digitByte (Text.isDigit_of_mem_decimal hc), Char.ofNat_toNat]
  exact Text.decimal_injective (by rw [← hback m, h, hback n])

/-- They begin with a zero only for zero. -/
theorem whole_digits (n : Nat) : Whole (digits n) := by
  rcases Nat.eq_zero_or_pos n with rfl | hpos
  · exact .zero
  · obtain ⟨c, cs, hcs, hc⟩ := Text.head_toDigits hpos
    have hhead : c.isDigit = true :=
      Text.isDigit_of_mem_decimal (hcs ▸ List.mem_cons_self)
    rw [digits, hcs, List.map_cons]
    refine .positive (isDigit_digitByte hhead) ?_ ?_
    · intro heq
      have hbyte := Text.toNat_digitByte hhead
      rw [heq] at hbyte
      exact hc (by rw [← Char.ofNat_toNat c, ← hbyte]; rfl)
    · intro d hd
      refine isDigit_of_mem_digits (n := n) ?_
      rw [digits, hcs]
      exact List.mem_cons_of_mem _ hd

theorem appendFitting_digits {n : Nat} (h : n < 18446744073709551616) :
    appendFitting 0 (digits n) = (n, []) := by
  have hn : Nat.ofDigitChars 10 (Nat.toDigits 10 n) 0 = n := Nat.ofDigitChars_ten_toDigits
  rw [digits, appendFitting_eq (fun c hc => Text.isDigit_of_mem_decimal hc) (by rwa [hn]), hn]

theorem unsigned_digits (sign : Bool) (n : Nat) :
    Unsigned ⟨sign, digits n, none, none⟩ (digits n) := by
  have h : Unsigned ⟨sign, digits n, none, none⟩ (digits n ++ [] ++ []) :=
    .parts (whole_digits n) .none .none
  rwa [List.append_nil, List.append_nil] at h

/-- A number of at most 64 bits is written as its digits. -/
theorem written_natural {n : Nat} (h : n < 18446744073709551616) :
    Written true (.number (.ok (.int n))) (Text.bytes (Text.decimal n)) := by
  have hvalue : (⟨false, digits n, none, none⟩ : Numeral).value = .ok (.int n) := by
    simp only [Numeral.value, appendFitting_digits h]
    rfl
  rw [← hvalue, Text.bytes_decimal]
  exact .positive rfl (unsigned_digits false n)

/-- A negative number of at most 64 bits is written as a minus sign and digits. -/
theorem written_negative {n : Nat} (h : n < 9223372036854775808) :
    Written true (.number (.ok (.int (.negSucc n))))
      (Text.bytes ("-" ++ Text.decimal (n + 1))) := by
  have hvalue : (⟨true, digits (n + 1), none, none⟩ : Numeral).value
      = .ok (.int (.negSucc n)) := by
    have hfits : n + 1 ≠ 0 ∧ n + 1 ≤ 9223372036854775808 := by omega
    simp only [Numeral.value, appendFitting_digits (show n + 1 < 18446744073709551616 by omega)]
    exact if_pos hfits
  rw [← hvalue, Text.bytes_append, Text.bytes_decimal]
  exact .negative rfl (unsigned_digits true (n + 1))

end Doc

-- ============================================ values

namespace Json

mutual

/-- Whether all numbers in a value are integers of 64 bits, with a sign or without. -/
def isWhole : Json → Bool
  | .int n => -9223372036854775808 ≤ n && n < 18446744073709551616
  | .float _ => false
  | .array items => areWhole items
  | .object members => haveWhole members
  | .null => true
  | .bool _ => true
  | .text _ => true
termination_by structural v => v

/-- The same for the items of an array. -/
def areWhole : List Json → Bool
  | [] => true
  | v :: rest => v.isWhole && areWhole rest
termination_by structural items => items

/-- The same for the members of an object. -/
def haveWhole : List (String × Json) → Bool
  | [] => true
  | (_, v) :: rest => v.isWhole && haveWhole rest
termination_by structural members => members

end

/-- What follows an item in an array. -/
def followingItems : List Json → String
  | [] => ""
  | v :: rest => "," ++ compactItems "" (v :: rest)

/-- What follows a member in an object. -/
def followingMembers : List (String × Json) → String
  | [] => ""
  | m :: rest => "," ++ compactMembers "" (m :: rest)

/-- The items of an array are the first of them and what follows it. -/
theorem compactItems_cons (v : Json) (rest : List Json) :
    compactItems "" (v :: rest) = v.compact ++ followingItems rest := by
  cases rest with
  | nil =>
      rw [compactItems, followingItems, String.append_empty]
      rfl
  | cons w rest =>
      have hsplit :
          compactItems "" (v :: w :: rest) = compactItems (v.compact ++ ",") (w :: rest) :=
        rfl
      rw [hsplit, compactItems_eq, followingItems, String.append_assoc]

theorem compactMembers_cons (k : String) (v : Json) (rest : List (String × Json)) :
    compactMembers "" ((k, v) :: rest)
      = escaped k ++ ":" ++ v.compact ++ followingMembers rest := by
  cases rest with
  | nil =>
      rw [compactMembers, followingMembers, compactOnto_eq]
      simp
  | cons m rest =>
      have hsplit : compactMembers "" ((k, v) :: m :: rest)
          = compactMembers (v.compactOnto ("" ++ escaped k ++ ":") ++ ",") (m :: rest) := rfl
      rw [hsplit, compactMembers_eq, followingMembers, compactOnto_eq]
      simp [String.append_assoc]

end Json

namespace Doc

/-- An integer of 64 bits is written as its digits, behind a minus sign if it has one. -/
theorem written_int {n : Int} (h : (Json.int n).isWhole = true) :
    Written true (ofJson (.int n)) (Text.bytes (Text.signedDecimal n)) := by
  simp only [Json.isWhole, Bool.and_eq_true, decide_eq_true_eq] at h
  cases n with
  | ofNat n =>
      have hn : n < 18446744073709551616 := Int.ofNat_lt.1 h.2
      exact written_natural hn
  | negSucc n =>
      have hn : n < 9223372036854775808 := by
        have := h.1
        omega
      exact written_negative hn

mutual

/-- The compact text of a value is one of its texts. -/
theorem written_compact : (v : Json) → v.isWhole = true →
    Written true (ofJson v) (Text.bytes v.compact)
  | .null, _ => .null
  | .bool true, _ => .boolTrue
  | .bool false, _ => .boolFalse
  | .int n, h => by
    rw [Json.compact, Json.compactOnto, String.empty_append]
    exact written_int h
  | .text s, _ => by
    obtain ⟨q, hq, hs⟩ := quoted_escaped s
    rw [Json.compact, Json.compactOnto, String.empty_append, Json.leafText, hq]
    exact .text hs
  | .array items, h => by
    have hcompact : (Json.array items).compact = "[" ++ Json.compactItems "" items ++ "]" := by
      rw [Json.compact, Json.compactOnto, String.empty_append, Json.compactItems_eq]
    rw [hcompact, String.append_assoc, Text.bytes_append, Text.bytes_append]
    exact .array (written_items items h).1
  | .object members, h => by
    have hcompact : (Json.object members).compact
        = "\x7b" ++ Json.compactMembers "" members ++ "\x7d" := by
      rw [Json.compact, Json.compactOnto, String.empty_append, Json.compactMembers_eq]
    rw [hcompact, String.append_assoc, Text.bytes_append, Text.bytes_append]
    exact .object (written_members members h).1

theorem written_items : (items : List Json) → Json.areWhole items = true →
    Written true (ofItems items) (Text.bytes (Json.compactItems "" items) ++ [0x5D])
      ∧ Written false (ofItems items) (Text.bytes (Json.followingItems items) ++ [0x5D])
  | [], _ => ⟨.noItems, .noItems⟩
  | v :: rest, h => by
    rw [Json.areWhole, Bool.and_eq_true] at h
    have hv := written_compact v h.1
    have hrest := (written_items rest h.2).2
    have hitems : Text.bytes (Json.compactItems "" (v :: rest)) ++ [0x5D]
        = Text.bytes v.compact ++ (Text.bytes (Json.followingItems rest) ++ [0x5D]) := by
      rw [Json.compactItems_cons, Text.bytes_append, List.append_assoc]
    have hfirst := Written.firstItem hv hrest
    have hnext := Written.nextItem hv hrest
    rw [Json.followingItems, Text.bytes_append, List.append_assoc, hitems]
    exact ⟨hfirst, hnext⟩

theorem written_members : (members : List (String × Json)) → Json.haveWhole members = true →
    Written true (ofMembers members) (Text.bytes (Json.compactMembers "" members) ++ [0x7D])
      ∧ Written false (ofMembers members) (Text.bytes (Json.followingMembers members) ++ [0x7D])
  | [], _ => ⟨.noMembers, .noMembers⟩
  | (k, v) :: rest, h => by
    rw [Json.haveWhole, Bool.and_eq_true] at h
    have hv := written_compact v h.1
    have hrest := (written_members rest h.2).2
    obtain ⟨q, hq, hk⟩ := quoted_escaped k
    have hnone : ∀ b ∈ ([] : List UInt8), isSpace b = true := fun b hb => by cases hb
    have hfirst := @Written.firstMember k _ _ q [] _ _ hk hnone hv hrest
    have hnext := @Written.nextMember k _ _ [] q [] _ _ hnone hk hnone hv hrest
    have hmembers : Text.bytes (Json.compactMembers "" ((k, v) :: rest)) ++ [0x7D]
        = 0x22 :: (q ++ ([] ++ 0x3A :: (Text.bytes v.compact
          ++ (Text.bytes (Json.followingMembers rest) ++ [0x7D])))) := by
      rw [Json.compactMembers_cons, Text.bytes_append, Text.bytes_append, Text.bytes_append, hq]
      simp only [List.append_assoc, List.cons_append]
      rfl
    rw [Json.followingMembers, Text.bytes_append, List.append_assoc, hmembers]
    exact ⟨hfirst, hnext⟩

end

end Doc

/-- The compact text of a value without doubles and with no number beyond 64 bits is a text of
that value. -/
theorem Json.writtenAs_compact {v : Json} (h : v.isWhole = true) :
    v.WrittenAs (Text.bytes v.compact) := by
  refine ⟨Text.bytes v.compact, [], Doc.written_compact v h, ?_, (List.append_nil _).symm⟩
  intro b hb
  cases hb

end CallExplorer
