/-
Actions without their events.

What an action comes to, and the state it leads to, do not hang on the events that it leaves for
the log. `ComesTo` says both and leaves the events out, so that actions in a row can be followed
one by one: as long as they succeed by `ComesTo.bind`, and to the end at the first failure by
`ComesTo.fails`.

Where there is neither a state nor a log, only success and failure are left, and a success is
followed backwards by `ok_of_bind`.
-/
import CallExplorer.Action

namespace CallExplorer

/-- Two computations in a row that succeed succeed one by one. -/
theorem ok_of_bind {ε α β : Type} {x : Except ε α} {f : α → Except ε β} {b : β}
    (h : (x >>= f) = .ok b) : ∃ a, x = .ok a ∧ f a = .ok b := by
  cases x with
  | error e => cases h
  | ok a => exact ⟨a, rfl, h⟩

/-- In whatever words a computation fails, it succeeds all the same. -/
theorem mapError_eq_ok {ε ε' α : Type} {x : Except ε α} {f : ε → ε'} {a : α} :
    x.mapError f = .ok a ↔ x = .ok a := by
  cases x with
  | error e => exact ⟨nofun, nofun⟩
  | ok b =>
      exact ⟨fun h => congrArg Except.ok (Except.ok.inj h),
        fun h => congrArg Except.ok (Except.ok.inj h)⟩

namespace Action

variable {σ ε α β : Type} {x : Action σ ε α} {f : α → Action σ ε β} {s t u : σ}

/-- What an action comes to and where it leads, whatever events it leaves. -/
structure ComesTo (x : Action σ ε α) (s : σ) (r : Except ε α) (t : σ) : Prop where
  result : (x s).result = r
  state : (x s).state = t

namespace ComesTo

theorem of_eq {r : Except ε α} {events : List Event} (h : x s = ⟨r, events, t⟩) :
    x.ComesTo s r t :=
  ⟨congrArg Outcome.result h, congrArg Outcome.state h⟩

theorem exists_eq {r : Except ε α} (hx : x.ComesTo s r t) : ∃ events, x s = ⟨r, events, t⟩ := by
  obtain ⟨rfl, rfl⟩ := hx
  exact ⟨(x s).events, rfl⟩

/-- Of two actions that do the same here one may stand for the other. -/
theorem of_same {y : Action σ ε α} {r : Except ε α} (h : x s = y s) (hy : y.ComesTo s r t) :
    x.ComesTo s r t := by
  refine ⟨?_, ?_⟩
  · rw [h, hy.result]
  · rw [h, hy.state]

/-- An action that succeeds hands over to the next one. -/
theorem bind {a : α} {r : Except ε β} (hx : x.ComesTo s (.ok a) t) (hf : (f a).ComesTo t r u) :
    (x >>= f).ComesTo s r u := by
  obtain ⟨hresult, rfl⟩ := hx
  cases ho : x s with
  | mk result events t =>
      rw [ho] at hresult hf
      obtain rfl : result = .ok a := hresult
      constructor
      · rw [bind_of_ok ho]
        exact hf.result
      · rw [bind_of_ok ho]
        exact hf.state

/-- Nothing comes behind an action that fails. -/
theorem fails {e : ε} (hx : x.ComesTo s (.error e) t) : (x >>= f).ComesTo s (.error e) t := by
  obtain ⟨hresult, rfl⟩ := hx
  cases ho : x s with
  | mk result events t =>
      rw [ho] at hresult
      obtain rfl : result = .error e := hresult
      exact of_eq (bind_of_error ho)

theorem mapError {ε' : Type} {r : Except ε α} (hx : x.ComesTo s r t) (g : ε → ε') :
    (x.mapError g).ComesTo s (r.mapError g) t :=
  ⟨congrArg (·.mapError g) hx.result, hx.state⟩

/-- An attempt goes well with whatever came of it. -/
theorem attempt {r : Except ε α} (hx : x.ComesTo s r t) {ε' : Type} :
    (x.attempt : Action σ ε' (Except ε α)).ComesTo s (.ok r) t :=
  ⟨congrArg _ hx.result, hx.state⟩

end ComesTo

end Action

end CallExplorer
