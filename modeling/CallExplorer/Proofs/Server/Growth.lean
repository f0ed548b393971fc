/-
What is said stays said.

Whatever a client does, the messages it sent before remain, and those it sends come on top.
-/
import CallExplorer.Remote

namespace CallExplorer

namespace Server

namespace Client

variable {ε α β : Type}

/-- An action only adds to what was sent. -/
def Grows (x : Action Client ε α) : Prop := ∀ c, c.sent <:+ (x c).state.sent

theorem grows_pure (a : α) : Grows (pure a : Action Client ε α) := fun c => List.suffix_refl c.sent

theorem grows_note (e : Event) : Grows (Action.note e : Action Client ε Unit) :=
  fun c => List.suffix_refl c.sent

theorem grows_fail (e : ε) : Grows (Action.fail e : Action Client ε α) :=
  fun c => List.suffix_refl c.sent

theorem grows_lift (x : Except ε α) : Grows (Action.lift x : Action Client ε α) :=
  fun c => List.suffix_refl c.sent

theorem grows_get : Grows (Action.get : Action Client ε Client) := fun c => List.suffix_refl c.sent

/-- Two actions in a row add to what was sent if each of them does. -/
theorem grows_bind {x : Action Client ε α} {f : α → Action Client ε β} (hx : Grows x)
    (hf : ∀ a, Grows (f a)) : Grows (x >>= f) := by
  intro c
  have hfirst := hx c
  cases hxc : x c with
  | mk result events c₁ =>
    rw [hxc] at hfirst
    cases result with
    | error e =>
        rw [Action.bind_of_error hxc]
        exact hfirst
    | ok a =>
        rw [Action.bind_of_ok hxc]
        exact hfirst.trans (hf a c₁)

theorem grows_mapError {ε' : Type} {f : ε → ε'} {x : Action Client ε α} (hx : Grows x) :
    Grows (x.mapError f) := hx

-- ============================================ what a client can do

/-- An obstacle that was met is out of the way, and nothing else changes. -/
theorem eq_of_meet {c c' : Client} {step : Step} {reason : String}
    (h : c.meet step = some (reason, c')) : c' = { c with obstacle := none } := by
  unfold meet at h
  split at h
  · split at h
    · cases h
      rfl
    · cases h
  · cases h

/-- At most one message is written from the first client to the second, and it is this one. -/
def Adds (m : Message) (c c' : Client) : Prop :=
  c'.sent = c.sent ∨ ∃ complete, c'.sent = ⟨m, complete⟩ :: c.sent

/-- Writing a message adds it or nothing. -/
theorem write_adds (m : Message) (c : Client) :
    Adds m c (write m c).2 ∧ (write m c).2.nextId = c.nextId := by
  unfold write
  split
  next reason c' h =>
    rw [eq_of_meet h]
    exact ⟨.inl rfl, rfl⟩
  next =>
    split
    next reason c' h =>
      rw [eq_of_meet h]
      exact ⟨.inr ⟨false, rfl⟩, rfl⟩
    next =>
      split
      next reason c' h =>
        rw [eq_of_meet h]
        exact ⟨.inr ⟨true, rfl⟩, rfl⟩
      next => exact ⟨.inr ⟨true, rfl⟩, rfl⟩

theorem grows_write (m : Message) : Grows (Action.step (write m)) := by
  intro c
  show c.sent <:+ (write m c).2.sent
  rcases (write_adds m c).1 with hnone | ⟨complete, hsent⟩
  · exact hnone ▸ List.suffix_refl _
  · rw [hsent]
    exact List.suffix_cons _ _

theorem grows_notify (method : String) (params : Option Json) : Grows (notify method params) :=
  grows_bind (grows_note _) fun _ => grows_write _

theorem grows_takeId : Grows takeId := fun c => List.suffix_refl c.sent

theorem grows_receive (id : Int) : Grows (receive id) := fun c => List.suffix_refl c.sent

theorem grows_request (decode : Decoder α) (method : String) (params : Option Json) :
    Grows (request decode method params) := by
  refine grows_bind grows_takeId fun id => ?_
  refine grows_bind (grows_note _) fun _ => ?_
  refine grows_bind (grows_write _) fun _ => ?_
  refine grows_bind (grows_receive id) fun reply => ?_
  cases reply.refusal with
  | some r => exact grows_bind (grows_note _) fun _ => grows_fail _
  | none => exact grows_lift _

theorem grows_needSession : Grows needSession := by
  refine grows_bind grows_get fun c => ?_
  split
  · exact grows_pure ()
  · exact grows_fail _

theorem grows_setSession (isOpen : Bool) : Grows (setSession isOpen) :=
  fun c => List.suffix_refl c.sent

theorem grows_openDocument (uri : Uri) (language content : String) :
    Grows (openDocument uri language content) :=
  grows_bind grows_needSession fun _ => grows_notify _ _

theorem grows_prepare (uri : Uri) (p : Position) : Grows (prepare uri p) :=
  grows_bind grows_needSession fun _ => grows_request _ _ _

theorem grows_links (d : Direction) (i : Item) : Grows (links d i) :=
  grows_bind grows_needSession fun _ => grows_request _ _ _

end Client

end Server

end CallExplorer
