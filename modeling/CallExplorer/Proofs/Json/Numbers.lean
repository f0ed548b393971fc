/-
Numbers are read as they are written.

A number has no closing mark. It ends where a byte follows that cannot belong to it, so each
lemma here has a condition on what comes next: no digit behind digits, no point behind the
digits before a point, no exponent letter behind the rest. Whatever may follow a value in a
document (`Stops`) meets all of them.
-/
import CallExplorer.Proofs.Json.Grammar

namespace CallExplorer

namespace Doc

/-- What may follow a value: the end, a blank, a comma or a closing bracket. -/
def Stops (rest : List UInt8) : Prop :=
  ∀ b left, rest = b :: left → isSpace b = true ∨ b = 0x2C ∨ b = 0x5D ∨ b = 0x7D

/-- No digit comes next. -/
def NoDigit (rest : List UInt8) : Prop := ∀ b left, rest = b :: left → isDigit b = false

theorem noDigit_nil : NoDigit [] := by
  intro b left h
  cases h

theorem noDigit_cons {b : UInt8} {rest : List UInt8} (h : isDigit b = false) :
    NoDigit (b :: rest) := by
  intro b' left heq
  cases heq
  exact h

/-- A byte behind a value is no part of a number. -/
theorem Stops.head {b : UInt8} {rest : List UInt8} (h : Stops (b :: rest)) :
    isDigit b = false ∧ b ≠ 0x2E ∧ b ≠ 0x65 ∧ b ≠ 0x45 := by
  rcases h b rest rfl with h | rfl | rfl | rfl
  · simp only [isSpace, Bool.or_eq_true, beq_iff_eq] at h
    rcases h with ((rfl | rfl) | rfl) | rfl
    all_goals decide
  all_goals decide

theorem Stops.noDigit {rest : List UInt8} (h : Stops rest) : NoDigit rest := by
  intro b left heq
  subst heq
  exact h.head.1

-- ============================================ digits

/-- The digits in front are taken, and nothing else. -/
theorem span_digits {ds rest : List UInt8} (hds : ∀ d ∈ ds, isDigit d = true)
    (hrest : NoDigit rest) :
    (ds ++ rest).takeWhile isDigit = ds ∧ (ds ++ rest).dropWhile isDigit = rest := by
  have hnext : rest.takeWhile isDigit = [] ∧ rest.dropWhile isDigit = rest := by
    cases rest with
    | nil => exact ⟨rfl, rfl⟩
    | cons b left =>
        have hb := hrest b left rfl
        simp [hb]
  rw [List.takeWhile_append_of_pos hds, List.dropWhile_append_of_pos hds, hnext.1, hnext.2,
    List.append_nil]
  exact ⟨rfl, rfl⟩

theorem readDigits_eq {ds rest : List UInt8} (h : Digits ds) (hrest : NoDigit rest) :
    readDigits (ds ++ rest) = .ok (ds, rest) := by
  obtain ⟨htake, hdrop⟩ := span_digits h.digit hrest
  rw [readDigits, htake, hdrop]
  cases ds with
  | nil => exact absurd rfl h.ne_nil
  | cons d ds => rfl

-- ============================================ the parts of a number

theorem readWhole_eq {ds rest : List UInt8} (h : Whole ds) (hrest : NoDigit rest) :
    readWhole (ds ++ rest) = .ok (ds, rest) := by
  cases h with
  | zero =>
      cases rest with
      | nil => rfl
      | cons b left =>
          have hb := hrest b left rfl
          rw [List.singleton_append, readWhole.eq_def]
          simp only [hb, Bool.false_eq_true, if_true, if_false]
  | @positive d ds hd hne hds =>
      obtain ⟨htake, hdrop⟩ := span_digits hds hrest
      rw [List.cons_append, readWhole.eq_def]
      simp only [hne, hd, htake, hdrop, if_true, if_false]

theorem readFraction_eq {f : Option (List UInt8)} {bs rest : List UInt8} (h : Fraction f bs)
    (hdigit : NoDigit rest) (hpoint : ∀ left, rest ≠ 0x2E :: left) :
    readFraction (bs ++ rest) = .ok (f, rest) := by
  cases h with
  | none =>
      rw [List.nil_append]
      unfold readFraction
      split
      next left => exact absurd rfl (hpoint left)
      next => rfl
  | @some ds h =>
      rw [List.cons_append, readFraction, readDigits_eq h hdigit]
      rfl

theorem readPower_eq (down : Bool) {ds rest : List UInt8} (h : Digits ds) (hrest : NoDigit rest) :
    readPower down (ds ++ rest) = .ok (some (down, ds), rest) := by
  rw [readPower, readDigits_eq h hrest]
  rfl

theorem readExponent_eq {e : Option (Bool × List UInt8)} {bs rest : List UInt8}
    (h : Exponent e bs) (hrest : Stops rest) : readExponent (bs ++ rest) = .ok (e, rest) := by
  cases h with
  | none =>
      cases rest with
      | nil => rfl
      | cons b left =>
          obtain ⟨-, -, hsmall, hlarge⟩ := hrest.head
          rw [List.nil_append, readExponent.eq_def]
          simp only [hsmall, hlarge, or_self, if_false]
  | @plain x ds he h =>
      -- digits begin with no sign
      obtain ⟨d, ds', rfl⟩ := List.exists_cons_of_ne_nil h.ne_nil
      have hd := h.digit d List.mem_cons_self
      have hplus : d ≠ 0x2B := by
        rintro rfl
        exact absurd hd (by decide)
      have hminus : d ≠ 0x2D := by
        rintro rfl
        exact absurd hd (by decide)
      rw [List.cons_append, List.cons_append, readExponent, if_pos he]
      · exact readPower_eq false h hrest.noDigit
      · intro bs heq
        injection heq with heq
        exact hplus heq
      · intro bs heq
        injection heq with heq
        exact hminus heq
  | plus he h =>
      rw [List.cons_append, List.cons_append, readExponent, if_pos he]
      exact readPower_eq false h hrest.noDigit
  | minus he h =>
      rw [List.cons_append, List.cons_append, readExponent, if_pos he]
      exact readPower_eq true h hrest.noDigit

/-- Neither a digit nor a point follows the digits before the point, unless they belong to
the number. -/
theorem noDigit_exponent {e : Option (Bool × List UInt8)} {bs rest : List UInt8}
    (h : Exponent e bs) (hrest : Stops rest) :
    NoDigit (bs ++ rest) ∧ ∀ left, bs ++ rest ≠ 0x2E :: left := by
  have hletter {x : UInt8} (hx : x = 0x65 ∨ x = 0x45) (tail : List UInt8) :
      NoDigit (x :: tail) ∧ ∀ left, x :: tail ≠ 0x2E :: left := by
    rcases hx with rfl | rfl
    all_goals
      refine ⟨noDigit_cons (by decide), fun left heq => ?_⟩
      injection heq with hx
      exact absurd hx (by decide)
  cases h with
  | none =>
      refine ⟨hrest.noDigit, fun left heq => ?_⟩
      rw [List.nil_append] at heq
      subst heq
      exact hrest.head.2.1 rfl
  | plain he _ => exact hletter he _
  | plus he _ => exact hletter he _
  | minus he _ => exact hletter he _

theorem noDigit_fraction {f : Option (List UInt8)} {bs rest : List UInt8} (h : Fraction f bs)
    (hrest : NoDigit rest) : NoDigit (bs ++ rest) := by
  cases h with
  | none => exact hrest
  | some _ => exact noDigit_cons (by decide)

-- ============================================ the whole number

/-- A number is read as it is written. -/
theorem readNumber_eq {n : Numeral} {bs rest : List UInt8} (h : Unsigned n bs)
    (hrest : Stops rest) : readNumber n.negative (bs ++ rest) = .ok (n, rest) := by
  obtain ⟨hw, hf, he⟩ := h
  obtain ⟨hdigit, hpoint⟩ := noDigit_exponent he hrest
  rw [readNumber, List.append_assoc, List.append_assoc,
    readWhole_eq hw (noDigit_fraction hf hdigit)]
  show (readFraction _ >>= _) = _
  rw [readFraction_eq hf hdigit hpoint]
  show (readExponent _ >>= _) = _
  rw [readExponent_eq he hrest]
  rfl

theorem Unsigned.head {n : Numeral} {bs : List UInt8} (h : Unsigned n bs) :
    ∃ d left, bs = d :: left ∧ isDigit d = true := by
  obtain ⟨hw, hf, he⟩ := h
  cases hn : n.whole with
  | nil =>
      rw [hn] at hw
      cases hw
  | cons d ds =>
      rw [hn] at hw
      refine ⟨d, _, rfl, ?_⟩
      cases hw with
      | zero => decide
      | positive hd _ _ => exact hd

end Doc

end CallExplorer
