/-
Looking back over a list.

A list of what happened, or of what is shown, is read from its beginning. Of something in it one
may ask what stands before it, and looking back from the end one may ask what was so last.
`AtEach F xs` asks the first of everything in the list; `Since P Q xs` says that there is a `P`
in the list and no `Q` behind it.

Both split where the list does, so whoever knows what is added to a list knows what becomes of
them.
-/
import Mathlib.Data.List.Basic

namespace CallExplorer

variable {α : Type} {P Q : α → Prop} {F : List α → α → Prop} {xs ys : List α} {x : α}

/-- There is a `P` in the list, and no `Q` behind it. -/
def Since (P Q : α → Prop) (xs : List α) : Prop :=
  ∃ before x behind, xs = before ++ x :: behind ∧ P x ∧ ∀ y ∈ behind, ¬ Q y

/-- Everything in the list is as `F` asks, given what stands before it. -/
def AtEach (F : List α → α → Prop) (xs : List α) : Prop :=
  ∀ before x behind, xs = before ++ x :: behind → F before x

theorem Since.exists_mem (h : Since P Q xs) : ∃ x ∈ xs, P x := by
  obtain ⟨before, x, behind, rfl, hx, -⟩ := h
  exact ⟨x, by simp, hx⟩

theorem not_since_nil : ¬ Since P Q [] := by
  rintro ⟨before, x, behind, h, -⟩
  simp at h

theorem since_append :
    Since P Q (xs ++ ys) ↔ Since P Q ys ∨ (∀ y ∈ ys, ¬ Q y) ∧ Since P Q xs := by
  constructor
  · rintro ⟨before, x, behind, h, hx, hbehind⟩
    rcases List.append_eq_append_iff.1 h with ⟨more, rfl, rfl⟩ | ⟨more, hxs, hys⟩
    · exact .inl ⟨more, x, behind, rfl, hx, hbehind⟩
    · cases more with
      | nil => exact .inl ⟨[], x, behind, hys.symm, hx, hbehind⟩
      | cons z more =>
          -- what was so last stands in the first part, so all of the second is behind it
          obtain ⟨rfl, rfl⟩ := List.cons.inj hys
          refine .inr ⟨fun y hy => hbehind y (by simp [hy]), before, x, more, hxs, hx, ?_⟩
          exact fun y hy => hbehind y (by simp [hy])
  · rintro (⟨before, x, behind, rfl, hx, hbehind⟩ | ⟨hys, before, x, behind, rfl, hx, hbehind⟩)
    · exact ⟨xs ++ before, x, behind, by simp, hx, hbehind⟩
    · refine ⟨before, x, behind ++ ys, by simp, hx, fun y hy => ?_⟩
      rcases List.mem_append.1 hy with hy | hy
      · exact hbehind y hy
      · exact hys y hy

theorem since_singleton : Since P Q [x] ↔ P x := by
  constructor
  · rintro ⟨before, y, behind, h, hy, -⟩
    cases before with
    | nil =>
        obtain ⟨rfl, -⟩ := List.cons.inj h
        exact hy
    | cons z before => simp at h
  · intro hx
    exact ⟨[], x, [], rfl, hx, by simp⟩

theorem since_concat : Since P Q (xs ++ [x]) ↔ P x ∨ ¬ Q x ∧ Since P Q xs := by
  simp [since_append, since_singleton]

theorem AtEach.imp {G : List α → α → Prop} (h : AtEach F xs)
    (himp : ∀ before x, F before x → G before x) : AtEach G xs :=
  fun before x behind hparts => himp before x (h before x behind hparts)

theorem atEach_nil : AtEach F [] := by
  intro before x behind h
  simp at h

theorem atEach_append :
    AtEach F (xs ++ ys) ↔ AtEach F xs ∧ AtEach (fun before y => F (xs ++ before) y) ys := by
  constructor
  · intro h
    constructor
    · rintro before x behind rfl
      exact h before x (behind ++ ys) (by simp)
    · rintro before y behind rfl
      exact h (xs ++ before) y behind (by simp)
  · rintro ⟨hxs, hys⟩ before x behind h
    rcases List.append_eq_append_iff.1 h with ⟨more, rfl, rfl⟩ | ⟨more, hparts, hrest⟩
    · exact hys more x behind rfl
    · cases more with
      | nil =>
          have hhere := hys [] x behind hrest.symm
          rw [List.append_nil] at hparts hhere
          rwa [hparts] at hhere
      | cons z more =>
          obtain ⟨rfl, -⟩ := List.cons.inj hrest
          exact hxs before x more hparts

theorem atEach_cons :
    AtEach F (x :: xs) ↔ F [] x ∧ AtEach (fun before y => F (x :: before) y) xs := by
  have hone : AtEach F [x] ↔ F [] x := by
    constructor
    · exact fun h => h [] x [] rfl
    · rintro hx before y behind h
      cases before with
      | nil =>
          obtain ⟨rfl, -⟩ := List.cons.inj h
          exact hx
      | cons z before => simp at h
  rw [← List.singleton_append, atEach_append, hone]
  rfl

theorem atEach_concat : AtEach F (xs ++ [x]) ↔ AtEach F xs ∧ F xs x := by
  rw [atEach_append, atEach_cons, List.append_nil]
  exact and_congr_right fun _ => and_iff_left atEach_nil

end CallExplorer
