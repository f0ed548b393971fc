/-
Computations that talk to the outside.

Resolving calls may ask a server, change the state of a session and leave events
for the log, and it may fail. An action says what comes of it from a given state:
the result, the events in order, and the state afterwards. A failure takes back
neither the state nor the events.
-/
import CallExplorer.Log.Event

namespace CallExplorer

/-- What an action comes to. -/
structure Outcome (σ ε α : Type) where
  result : Except ε α
  events : List Event
  state : σ

/-- An action over states `σ` that gives an `α` or fails with an `ε`. -/
def Action (σ ε α : Type) : Type := σ → Outcome σ ε α

namespace Action

variable {σ ε α β : Type}

/-- Does nothing. -/
def pure (a : α) : Action σ ε α := fun s => ⟨.ok a, [], s⟩

/-- Goes on with the result of `x`, unless that failed. -/
def bind (x : Action σ ε α) (f : α → Action σ ε β) : Action σ ε β := fun s =>
  match x s with
  | ⟨.error e, events, s⟩ => ⟨.error e, events, s⟩
  | ⟨.ok a, events, s⟩ =>
    let o := f a s
    ⟨o.result, events ++ o.events, o.state⟩

instance : Monad (Action σ ε) where
  pure := pure
  bind := bind

/-- Fails. -/
def fail (e : ε) : Action σ ε α := fun s => ⟨.error e, [], s⟩

/-- Leaves an event. -/
def note (e : Event) : Action σ ε Unit := fun s => ⟨.ok (), [e], s⟩

/-- The state. -/
def get : Action σ ε σ := fun s => ⟨.ok s, [], s⟩

/-- Changes the state. -/
def modify (f : σ → σ) : Action σ ε Unit := fun s => ⟨.ok (), [], f s⟩

/-- A computation that changes nothing. -/
def lift (x : Except ε α) : Action σ ε α := fun s => ⟨x, [], s⟩

/-- A step that gives a result and the next state. -/
def step (f : σ → Except ε α × σ) : Action σ ε α := fun s => ⟨(f s).1, [], (f s).2⟩

/-- Fails with other words. -/
def mapError {ε' : Type} (f : ε → ε') (x : Action σ ε α) : Action σ ε' α := fun s =>
  let o := x s
  ⟨o.result.mapError f, o.events, o.state⟩

/-- Acts on a part of a greater state. -/
def zoom {τ : Type} (view : τ → σ) (update : σ → τ → τ) (x : Action σ ε α) : Action τ ε α :=
  fun t =>
    let o := x (view t)
    ⟨o.result, o.events, update o.state t⟩

/-- The outcome of an action as the result of one that cannot fail. -/
def attempt {ε' : Type} (x : Action σ ε α) : Action σ ε' (Except ε α) := fun s =>
  let o := x s
  ⟨.ok o.result, o.events, o.state⟩

-- ============================================ laws

/-- Going on after a result. -/
theorem bind_of_ok {x : Action σ ε α} {f : α → Action σ ε β} {s t : σ} {a : α}
    {events : List Event} (h : x s = ⟨.ok a, events, t⟩) :
    (x >>= f) s = ⟨(f a t).result, events ++ (f a t).events, (f a t).state⟩ := by
  simp only [Bind.bind, bind, h]

/-- Nothing goes on after a failure. -/
theorem bind_of_error {x : Action σ ε α} {f : α → Action σ ε β} {s t : σ} {e : ε}
    {events : List Event} (h : x s = ⟨.error e, events, t⟩) :
    (x >>= f) s = ⟨.error e, events, t⟩ := by
  simp only [Bind.bind, bind, h]

/-- Two actions in a row that succeed succeed one by one. -/
theorem ok_of_bind {x : Action σ ε α} {f : α → Action σ ε β} {s : σ} {b : β}
    (h : ((x >>= f) s).result = .ok b) :
    ∃ a events t, x s = ⟨.ok a, events, t⟩ ∧ (f a t).result = .ok b := by
  cases hx : x s with
  | mk result events t =>
    cases result with
    | error e =>
      rw [bind_of_error hx] at h
      cases h
    | ok a =>
      rw [bind_of_ok hx] at h
      exact ⟨a, events, t, rfl, h⟩

/-- The words for a failure do not matter to a result. -/
theorem mapError_of_ok {ε' : Type} {x : Action σ ε α} {s t : σ} {a : α} {events : List Event}
    (h : x s = ⟨.ok a, events, t⟩) (f : ε → ε') : x.mapError f s = ⟨.ok a, events, t⟩ := by
  rw [mapError, h]
  rfl

/-- Nor did they, where there is a result. -/
theorem ok_of_mapError {ε' : Type} {f : ε → ε'} {x : Action σ ε α} {s t : σ} {a : α}
    {events : List Event} (h : x.mapError f s = ⟨.ok a, events, t⟩) : x s = ⟨.ok a, events, t⟩ := by
  cases hx : x s with
  | mk result events' t' =>
    rw [mapError, hx] at h
    cases result with
    | error e => cases h
    | ok a' =>
      cases h
      rfl

/-- An attempt succeeds with what came of the action. -/
theorem attempt_apply {ε' : Type} (x : Action σ ε α) (s : σ) :
    attempt x s = (⟨.ok (x s).result, (x s).events, (x s).state⟩
      : Outcome σ ε' (Except ε α)) := rfl

/-- Nothing happens before a plain result. -/
theorem pure_apply (a : α) (s : σ) : (Pure.pure a : Action σ ε α) s = ⟨.ok a, [], s⟩ := rfl

theorem pure_bind (a : α) (f : α → Action σ ε β) : (Pure.pure a >>= f : Action σ ε β) = f a := by
  funext s
  simp [Bind.bind, Pure.pure, bind, pure]

theorem bind_pure (x : Action σ ε α) : (x >>= Pure.pure) = x := by
  funext s
  simp only [Bind.bind, Pure.pure, bind, pure]
  split <;> simp_all

theorem bind_assoc {γ : Type} (x : Action σ ε α) (f : α → Action σ ε β)
    (g : β → Action σ ε γ) : (x >>= f >>= g) = (x >>= fun a => f a >>= g) := by
  funext s
  simp only [Bind.bind, bind]
  cases x s with
  | mk result events s =>
    cases result with
    | error e => rfl
    | ok a =>
      simp only
      cases f a s with
      | mk result events s =>
        cases result with
        | error e => rfl
        | ok b => simp

end Action

end CallExplorer
