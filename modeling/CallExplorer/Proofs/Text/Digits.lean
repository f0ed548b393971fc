/-
Decimal digits.

The digits of a number determine it, and reading them from the left never holds a greater
number on the way than at the end. So a number in bounds is read back without a complaint.
-/
import CallExplorer.Proofs.Text.Utf8
import CallExplorer.Text.Decimal

namespace CallExplorer.Text

theorem toList_decimal (n : Nat) : (decimal n).toList = Nat.toDigits 10 n := by
  rw [decimal, String.toList_ofList]

theorem isDigit_of_mem_decimal {n : Nat} {c : Char} (h : c ∈ Nat.toDigits 10 n) :
    c.isDigit = true :=
  Nat.isDigit_of_mem_toDigits (by decide) (by decide) h

/-- Digits lie between zero and nine. -/
theorem isDigit_bounds {c : Char} (h : c.isDigit = true) : 48 ≤ c.toNat ∧ c.toNat ≤ 57 := by
  simp only [Char.isDigit, Bool.and_eq_true, decide_eq_true_eq, ge_iff_le,
    UInt32.le_iff_toNat_le] at h
  exact h

/-- Different numbers have different digits. -/
theorem decimal_injective {m n : Nat} (h : Nat.toDigits 10 m = Nat.toDigits 10 n) : m = n := by
  rw [← Nat.ofDigitChars_ten_toDigits (n := m), h, Nat.ofDigitChars_ten_toDigits]

/-- More digits never make a number smaller. -/
theorem le_ofDigitChars (cs : List Char) (n : Nat) : n ≤ Nat.ofDigitChars 10 cs n := by
  induction cs generalizing n with
  | nil =>
      exact Nat.le_of_eq Nat.ofDigitChars_nil.symm
  | cons c cs ih =>
      rw [Nat.ofDigitChars_cons]
      have := ih (10 * n + (c.toNat - '0'.toNat))
      omega

/-- Only the number zero begins with the digit zero. -/
theorem head_toDigits {n : Nat} (h : 0 < n) :
    ∃ c cs, Nat.toDigits 10 n = c :: cs ∧ c ≠ '0' := by
  induction n using Nat.strongRecOn with
  | _ n ih =>
    by_cases hlt : n < 10
    · refine ⟨n.digitChar, [], Nat.toDigits_of_lt_base hlt, fun hzero => ?_⟩
      have := Nat.toNat_digitChar_sub_48_of_lt_ten hlt
      rw [hzero] at this
      have : n = 0 := this.symm
      omega
    · obtain ⟨c, cs, hcs, hc⟩ := ih (n / 10) (by omega) (by omega)
      refine ⟨c, cs ++ [(n % 10).digitChar], ?_, hc⟩
      rw [Nat.toDigits_of_base_le (by decide) (by omega), hcs, List.cons_append]

-- ============================================ reading back

/-- Digits are read as the number they make, if that stays within the limit. -/
theorem appendDigits_eq {limit : Nat} {beyond : NumberError} {cs : List Char}
    (hcs : ∀ c ∈ cs, c.isDigit = true) :
    ∀ {n : Nat}, Nat.ofDigitChars 10 cs n ≤ limit →
      appendDigits limit beyond n cs = .ok (Nat.ofDigitChars 10 cs n) := by
  induction cs with
  | nil =>
      intro n _
      rw [appendDigits, Nat.ofDigitChars_nil]
  | cons c cs ih =>
      intro n h
      rw [Nat.ofDigitChars_cons] at h ⊢
      have hc : digit? c = some (c.toNat - '0'.toNat) := by
        rw [digit?, if_pos (hcs c List.mem_cons_self)]
      have hle := le_ofDigitChars cs (10 * n + (c.toNat - '0'.toNat))
      have hcomm : n * 10 + (c.toNat - '0'.toNat) = 10 * n + (c.toNat - '0'.toNat) := by omega
      rw [appendDigits, hc]
      simp only [hcomm]
      rw [if_pos (by omega), ih (fun x hx => hcs x (List.mem_cons_of_mem c hx)) h]

/-- Whatever is read is digits, and the number they make is within the limit. -/
theorem appendDigits_ok {limit : Nat} {beyond : NumberError} {cs : List Char} {m n : Nat}
    (h : appendDigits limit beyond m cs = .ok n) :
    (∀ c ∈ cs, c.isDigit = true) ∧ Nat.ofDigitChars 10 cs m = n ∧ (m ≤ limit → n ≤ limit) := by
  induction cs generalizing m with
  | nil =>
      cases h
      exact ⟨by simp, Nat.ofDigitChars_nil, id⟩
  | cons c cs ih =>
      rw [appendDigits] at h
      by_cases hc : c.isDigit = true
      · have hdigit : digit? c = some (c.toNat - '0'.toNat) := by rw [digit?, if_pos hc]
        simp only [hdigit] at h
        split at h
        next hfits =>
          obtain ⟨hcs, hvalue, hlimit⟩ := ih h
          rw [Nat.mul_comm] at hvalue
          refine ⟨List.forall_mem_cons.2 ⟨hc, hcs⟩, ?_, fun _ => hlimit hfits⟩
          rw [Nat.ofDigitChars_cons, hvalue]
        next => cases h
      · have hnone : digit? c = none := by rw [digit?, if_neg hc]
        simp only [hnone] at h
        cases h

/-- A number as it may be written: one or more digits, with a plus sign in front or without. -/
def IsNumeral (raw : List Char) (n : Nat) : Prop :=
  ∃ ds, (raw = ds ∨ raw = '+' :: ds) ∧ ds ≠ [] ∧ (∀ c ∈ ds, c.isDigit = true)
    ∧ Nat.ofDigitChars 10 ds 0 = n

/-- Just the numbers within the limit are read. -/
theorem readNat_eq_ok_iff {limit n : Nat} {raw : List Char} :
    readNat limit raw = .ok n ↔ IsNumeral raw n ∧ n ≤ limit := by
  constructor
  · intro h
    unfold readNat at h
    split at h
    next => cases h
    next => cases h
    next cs hcs =>
      obtain ⟨hdigits, hvalue, hlimit⟩ := appendDigits_ok h
      exact ⟨⟨cs, .inr rfl, fun hnil => hcs (by rw [hnil]), hdigits, hvalue⟩,
        hlimit (Nat.zero_le limit)⟩
    next hnil _ _ =>
      obtain ⟨hdigits, hvalue, hlimit⟩ := appendDigits_ok h
      exact ⟨⟨raw, .inl rfl, hnil, hdigits, hvalue⟩, hlimit (Nat.zero_le limit)⟩
  · rintro ⟨⟨ds, hraw, hne, hdigits, rfl⟩, hlimit⟩
    have hread : appendDigits limit .tooLarge 0 ds = .ok (Nat.ofDigitChars 10 ds 0) :=
      appendDigits_eq hdigits hlimit
    obtain ⟨c, cs, rfl⟩ := List.exists_cons_of_ne_nil hne
    have hc : c ≠ '+' := by
      rintro rfl
      exact absurd (hdigits '+' List.mem_cons_self) (by decide)
    unfold readNat
    rcases hraw with rfl | rfl
    · split
      next heq => cases heq
      next heq =>
        injection heq with hplus
        exact absurd hplus hc
      next heq =>
        injection heq with hplus
        exact absurd hplus hc
      next => exact hread
    · exact hread

/-- The decimal text of a number in bounds is read as that number. -/
theorem readNat_decimal {limit n : Nat} (h : n ≤ limit) :
    readNat limit (decimal n).toList = .ok n := by
  refine readNat_eq_ok_iff.2 ⟨⟨Nat.toDigits 10 n, .inl (toList_decimal n), ?_, ?_, ?_⟩, h⟩
  · exact Nat.toDigits_ne_nil
  · exact fun c hc => isDigit_of_mem_decimal hc
  · exact Nat.ofDigitChars_ten_toDigits

-- ============================================ digits as bytes

/-- The byte of a digit. -/
def digitByte (c : Char) : UInt8 := UInt8.ofNat c.toNat

/-- The bytes of digits are one for each. -/
theorem bytes_digits {cs : List Char} (h : ∀ c ∈ cs, c.isDigit = true) :
    cs.flatMap String.utf8EncodeChar = cs.map digitByte := by
  induction cs with
  | nil => rfl
  | cons c cs ih =>
      have hc := isDigit_bounds (h c List.mem_cons_self)
      rw [List.flatMap_cons, utf8EncodeChar_ascii (by omega),
        ih fun x hx => h x (List.mem_cons_of_mem c hx), List.map_cons, List.singleton_append]
      rfl

theorem bytes_decimal (n : Nat) : bytes (decimal n) = (Nat.toDigits 10 n).map digitByte := by
  rw [decimal, bytes_ofList, bytes_digits fun c hc => isDigit_of_mem_decimal hc]

theorem toNat_digitByte {c : Char} (h : c.isDigit = true) : (digitByte c).toNat = c.toNat := by
  have hc := isDigit_bounds h
  rw [digitByte, UInt8.toNat_ofNat']
  omega

end CallExplorer.Text
