/-
The order of texts and the order of their bytes.

Texts are compared character by character, and so are their bytes, one by one. Both comparisons
come to the same (`lt_iff_bytes_lt`): where two characters differ, the first byte in which they
are written differently stands in the same order, whatever follows (`utf8EncodeChar_lt`). A longer
character has a greater first byte, and characters of one length are written digit by digit, the
greatest digit first.
-/
import Mathlib.Data.Char
import Mathlib.Tactic.SplitIfs
import CallExplorer.Proofs.Text.Utf8

namespace CallExplorer.Text

-- ============================================ characters

theorem cons_ofNat_lt {a b : Nat} (ha : a < 256) (hb : b < 256) {xs ys : List UInt8} :
    UInt8.ofNat a :: xs < UInt8.ofNat b :: ys ↔ a < b ∨ a = b ∧ xs < ys := by
  rw [List.cons_lt_cons_iff, UInt8.lt_iff_toNat_lt, ← UInt8.toNat_inj,
    UInt8.toNat_ofNat_of_lt' ha, UInt8.toNat_ofNat_of_lt' hb]

theorem val_lt (c : Char) : c.val.toNat < 0x110000 := by
  have := c.valid
  simp only [UInt32.isValidChar, Nat.isValidChar] at this
  omega

/-- Whatever follows, the bytes of two characters are in the order of these. -/
theorem utf8EncodeChar_lt {c d : Char} (h : c < d) (xs ys : List UInt8) :
    String.utf8EncodeChar c ++ xs < String.utf8EncodeChar d ++ ys := by
  have hlt : c.val.toNat < d.val.toNat := h
  have hc := val_lt c
  have hd := val_lt d
  unfold String.utf8EncodeChar
  generalize c.val.toNat = m at hlt hc
  generalize d.val.toNat = n at hlt hd
  -- digits to the base 64, of which the greatest is small
  have digits : ∀ k, k < 0x110000 → k / 64 / 64 = k / 4096 ∧ k / 4096 / 64 = k / 262144
      ∧ k / 262144 % 8 = k / 262144 := by omega
  have hm := digits m hc
  have hn := digits n hd
  dsimp only
  split_ifs <;>
    simp (disch := omega) only [List.cons_append, List.nil_append, cons_ofNat_lt] <;> omega

-- ============================================ texts

theorem append_lt_append_iff (bs xs ys : List UInt8) : bs ++ xs < bs ++ ys ↔ xs < ys := by
  induction bs with
  | nil => rfl
  | cons b bs ih => simp [ih]

/-- Characters in a row are in the order of their bytes. -/
theorem flatMap_lt_iff {cs ds : List Char} :
    cs.flatMap String.utf8EncodeChar < ds.flatMap String.utf8EncodeChar ↔ cs < ds := by
  induction cs generalizing ds with
  | nil =>
      cases ds with
      | nil => simp
      | cons d ds =>
          obtain ⟨b, bs, hd⟩ := List.exists_cons_of_ne_nil (String.utf8EncodeChar_ne_nil (c := d))
          simp [hd]
  | cons c cs ih =>
      cases ds with
      | nil => simp
      | cons d ds =>
          rw [List.flatMap_cons, List.flatMap_cons, List.cons_lt_cons_iff]
          rcases lt_trichotomy c d with hlt | rfl | hgt
          · exact iff_of_true (utf8EncodeChar_lt hlt _ _) (.inl hlt)
          · rw [append_lt_append_iff, ih]
            simp
          · refine iff_of_false (List.lt_asymm (utf8EncodeChar_lt hgt _ _)) ?_
            rintro (hlt | ⟨rfl, -⟩)
            · exact lt_asymm hlt hgt
            · exact lt_irrefl _ hgt

/-- Texts are in the order of their bytes. -/
theorem lt_iff_bytes_lt {s t : String} : s < t ↔ bytes s < bytes t := by
  rw [bytes_eq_flatMap, bytes_eq_flatMap, flatMap_lt_iff, String.lt_iff]

end CallExplorer.Text
