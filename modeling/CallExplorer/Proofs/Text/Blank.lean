/-
Trimming.

What is not blank stays, and trimming never reaches past a character that is not blank: around
such a character each side is trimmed by itself (`trim_append_cons`). A text that was trimmed on
one side is trimmed to the same in the end.
-/
import Mathlib.Data.List.DropRight
import CallExplorer.Text.Blank

namespace CallExplorer.Text

/-- Nothing is trimmed from the end up to a character that is not blank. -/
theorem trimEnd_append_cons {c : Char} (hc : isBlank c = false) (xs ys : List Char) :
    trimEnd (xs ++ c :: ys) = xs ++ c :: trimEnd ys := by
  have hreverse : (xs ++ c :: ys).reverse = ys.reverse ++ c :: xs.reverse := by
    rw [List.reverse_append, List.reverse_cons, List.append_assoc, List.singleton_append]
  rw [trimEnd, trimEnd, hreverse, List.dropWhile_append]
  split
  next hempty =>
    rw [List.isEmpty_iff.1 hempty, List.dropWhile_cons_of_neg (by simp [hc]), List.reverse_cons,
      List.reverse_reverse]
    rfl
  next =>
    rw [List.reverse_append, List.reverse_cons, List.reverse_reverse, List.append_assoc,
      List.singleton_append]

/-- Nor from the start behind it. -/
theorem trimStart_append_cons {c : Char} (hc : isBlank c = false) (xs ys : List Char) :
    trimStart (xs ++ c :: ys) = trimStart xs ++ c :: ys := by
  rw [trimStart, trimStart, List.dropWhile_append]
  split
  next hempty =>
    rw [List.isEmpty_iff.1 hempty, List.dropWhile_cons_of_neg (by simp [hc])]
    rfl
  next => rfl

/-- Around a character that is not blank each side is trimmed by itself. -/
theorem trim_append_cons {c : Char} (hc : isBlank c = false) (xs ys : List Char) :
    trim (xs ++ c :: ys) = trimStart xs ++ c :: trimEnd ys := by
  rw [trim, trimStart_append_cons hc, trimEnd_append_cons hc]

theorem trimEnd_of_not {cs : List Char} (h : ∀ c ∈ cs, isBlank c = false) : trimEnd cs = cs := by
  rcases List.eq_nil_or_concat cs with rfl | ⟨xs, c, rfl⟩
  · rfl
  · rw [List.concat_eq_append] at h ⊢
    exact trimEnd_append_cons (h c (by simp)) xs []

/-- A text without blanks stays as it is. -/
theorem trim_of_not {cs : List Char} (h : ∀ c ∈ cs, isBlank c = false) : trim cs = cs := by
  cases cs with
  | nil => rfl
  | cons c cs =>
      have hfirst : trim ([] ++ c :: cs) = trimStart [] ++ c :: trimEnd cs :=
        trim_append_cons (h c List.mem_cons_self) [] cs
      have hrest := trimEnd_of_not fun x hx => h x (List.mem_cons_of_mem c hx)
      rw [List.nil_append] at hfirst
      rw [hfirst, hrest]
      rfl

/-- Trimming adds nothing. -/
theorem mem_of_mem_trim {cs : List Char} {c : Char} (h : c ∈ trim cs) : c ∈ cs := by
  have hreverse := (List.dropWhile_sublist isBlank).mem (List.mem_reverse.1 h)
  exact (List.dropWhile_sublist isBlank).mem (List.mem_reverse.1 hreverse)

-- ============================================ trimming twice

theorem trim_trimStart (cs : List Char) : trim (trimStart cs) = trim cs := by
  rw [trim, trim, trimStart, trimStart, List.dropWhile_idempotent]

theorem trimEnd_trimEnd (cs : List Char) : trimEnd (trimEnd cs) = trimEnd cs := by
  rw [trimEnd, trimEnd, List.reverse_reverse, List.dropWhile_idempotent]

/-- A text that is blank from the start is blank from the end. -/
theorem trimEnd_of_trimStart {cs : List Char} (h : trimStart cs = []) : trimEnd cs = [] := by
  have hblank := List.dropWhile_eq_nil_iff.1 h
  rw [trimEnd, List.dropWhile_eq_nil_iff.2 fun c hc => hblank c (List.mem_reverse.1 hc)]
  rfl

theorem trim_trimEnd (cs : List Char) : trim (trimEnd cs) = trim cs := by
  cases hstart : trimStart cs with
  | nil =>
      rw [trimEnd_of_trimStart hstart, trim, trim, hstart]
      rfl
  | cons c after =>
      have hc : isBlank c = false := by
        have hhead := List.head?_dropWhile_not isBlank cs
        rw [show cs.dropWhile isBlank = c :: after from hstart] at hhead
        exact hhead
      have hcs : cs = cs.takeWhile isBlank ++ c :: after := by
        rw [← hstart, trimStart, List.takeWhile_append_dropWhile]
      rw [hcs, trimEnd_append_cons hc, trim_append_cons hc, trim_append_cons hc, trimEnd_trimEnd]

end CallExplorer.Text
