/-
The depth of a listing.

A depth on a command line is a number of 64 bits, and no step of the reading makes up another one:
whatever holds of choices and is kept whenever an option gets its value holds of all choices that
are read (`chosen_of_readWords`). So the depth of the settings is a number of 64 bits as well, and
the depths of the rows of a listing are no greater.
-/
import CallExplorer.Command.Arguments
import CallExplorer.Proofs.Action
import CallExplorer.Proofs.Text.Digits
import Mathlib.Algebra.Group.Nat.Defs

namespace CallExplorer

namespace Command

-- ============================================ what is kept while words are read

/-- It still holds of choices when an option got its value. -/
def Kept (P : Choices → Prop) : Prop :=
  ∀ {c c' : Choices} {o : OptionName} {raw : String}, P c → c.set o raw = .ok c' → P c'

section Kept

variable {P : Choices → Prop} {s : Scope} {r r' : Reading} {w : String} {words : List String}

/-- An option that ends the reading leads nowhere. -/
theorem ending_ne_ok {flag : String} {value : Option String} {stop : Stop} :
    r.ending flag value stop ≠ .ok r' := by
  intro h
  unfold Reading.ending at h
  split at h
  · cases h
  · obtain ⟨_, _, h⟩ := ok_of_bind h
    cases h

variable (hkept : Kept P)

include hkept

theorem kept_add {c c' : Choices} {o : OptionName} {raw : String} (hc : P c)
    (h : c.add o raw = .ok c') : P c' := by
  unfold Choices.add at h
  split at h
  · cases h
  · exact hkept hc h

theorem kept_settle (hr : P r.chosen) (h : r.settle = .ok r') : P r'.chosen := by
  unfold Reading.settle at h
  split at h
  · injection h with h
    exact h ▸ hr
  · cases h
  · obtain ⟨chosen, hchosen, h⟩ := ok_of_bind h
    injection h with h
    exact h ▸ kept_add hkept hr (mapError_eq_ok.1 hchosen)

theorem kept_option {o : OptionName} {value : Option String} (hr : P r.chosen)
    (h : r.option o value = .ok r') : P r'.chosen := by
  obtain ⟨settled, hsettled, h⟩ := ok_of_bind h
  have hsettled := kept_settle hkept hr hsettled
  split at h
  · injection h with h
    exact h ▸ hsettled
  · obtain ⟨chosen, hchosen, h⟩ := ok_of_bind h
    injection h with h
    exact h ▸ kept_add hkept hsettled (mapError_eq_ok.1 hchosen)

theorem kept_operand (hr : P r.chosen) (h : r.operand w = .ok r') : P r'.chosen := by
  obtain ⟨settled, hsettled, h⟩ := ok_of_bind h
  have hsettled := kept_settle hkept hr hsettled
  injection h with h
  exact h ▸ hsettled

theorem kept_word (hr : P r.chosen) (h : r.word s w = .ok r') : P r'.chosen := by
  unfold Reading.word at h
  split at h
  · split at h
    · exact kept_option hkept hr h
    · split at h
      · exact absurd h ending_ne_ok
      · split at h
        · exact absurd h ending_ne_ok
        · cases h
  · split at h
    · exact absurd h ending_ne_ok
    · split at h
      · exact absurd h ending_ne_ok
      · cases h
  · split at h
    · injection h with h
      exact h ▸ hr
    · split at h
      · cases h
      · split at h
        · exact kept_operand hkept hr h
        · cases h
      · cases h

theorem kept_operandsOnly (hr : P r.chosen) (h : Reading.operandsOnly s words r = .ok r') :
    P r'.chosen := by
  induction words generalizing r with
  | nil =>
      injection h with h
      exact h ▸ hr
  | cons w rest ih =>
      unfold Reading.operandsOnly at h
      cases s with
      | program => cases h
      | fixture =>
          simp only at h
          split at h
          · obtain ⟨next, hnext, h⟩ := ok_of_bind h
            exact ih (kept_operand hkept hr hnext) h
          · cases h
      | server =>
          obtain ⟨next, hnext, h⟩ := ok_of_bind h
          exact ih (kept_operand hkept hr hnext) h

theorem kept_subcommand (hr : P r.chosen) (h : Reading.subcommand s words r = .ok r') :
    P r'.chosen := by
  induction words generalizing r with
  | nil => exact kept_settle hkept hr h
  | cons w rest ih =>
      unfold Reading.subcommand at h
      split at h
      · obtain ⟨last, hlast, h⟩ := ok_of_bind h
        exact kept_settle hkept (kept_operandsOnly hkept hr hlast) h
      · obtain ⟨next, hnext, h⟩ := ok_of_bind h
        exact ih (kept_word hkept hr hnext) h

/-- Settings are made of what was chosen in the scope of the subcommand and around it. -/
theorem chosen_of_readWords {settings : Settings} (hnone : P {}) (hr : P r.chosen)
    (h : readWords words r = .ok settings) :
    ∃ inner outer source, P inner ∧ P outer ∧ settings = settingsOf inner outer source := by
  induction words generalizing r with
  | nil => cases h
  | cons w rest ih =>
      unfold readWords at h
      split at h
      · obtain ⟨inner, hinner, h⟩ := ok_of_bind h
        obtain ⟨source, -, h⟩ := ok_of_bind h
        obtain ⟨outer, houter, h⟩ := ok_of_bind h
        injection h with h
        exact ⟨inner.chosen, outer.chosen, source, kept_subcommand hkept hnone hinner,
          kept_settle hkept hr houter, h.symm⟩
      · split at h
        · obtain ⟨_, _, h⟩ := ok_of_bind h
          cases h
        · obtain ⟨next, hnext, h⟩ := ok_of_bind h
          exact ih (kept_word hkept hr hnext) h

end Kept

-- ============================================ depths

/-- The depth, if one was chosen, is a number of 64 bits. -/
def Choices.Shallow (c : Choices) : Prop := ∀ n, c.depth = some n → n < 2 ^ 64

theorem kept_shallow : Kept Choices.Shallow := by
  intro c c' o raw hc h
  cases o with
  | depth =>
      obtain ⟨depth, hdepth, h⟩ := ok_of_bind h
      have hread := Text.readNat_eq_ok_iff.1 (mapError_eq_ok.1 (mapError_eq_ok.1 hdepth))
      injection h with h
      subst h
      intro n hn
      injection hn with hn
      exact hn ▸ Nat.lt_of_le_of_lt hread.2 (by decide)
  | direction | logFormat | line | column =>
      obtain ⟨_, _, h⟩ := ok_of_bind h
      injection h with h
      exact h ▸ hc
  | logFilter | file | language =>
      injection h with h
      exact h ▸ hc
  | output =>
      unfold Choices.set at h
      simp only at h
      split at h
      · injection h with h
        exact h ▸ hc
      · cases h

/-- The depth of settings that were read is a number of 64 bits. -/
theorem depth_lt_of_readSettings {words : List String} {s : Settings}
    (h : readSettings words = .ok s) : s.depth < 2 ^ 64 := by
  have hnone : Choices.Shallow {} := fun n hn => by cases hn
  obtain ⟨inner, outer, source, hinner, houter, rfl⟩ :=
    chosen_of_readWords kept_shallow hnone hnone h
  show (inner.depth.or outer.depth).getD Settings.defaultDepth < 2 ^ 64
  cases hi : inner.depth with
  | some n => exact hinner n hi
  | none =>
      cases ho : outer.depth with
      | some n => exact houter n ho
      | none => exact (by decide : Settings.defaultDepth < 2 ^ 64)

end Command

end CallExplorer
