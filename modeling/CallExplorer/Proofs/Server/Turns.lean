/-
One turn after the other.

The user of a client has it do one thing after the other, in any order and with whatever the server
says meanwhile. Each time the client takes its turn: there is a client before it and one after it,
and something comes of it. `turns` has them all.

What every operation preserves holds before every turn and in the end. So from one turn to the
next the stream gets shorter and the ids that were written stay (`Later`).
-/
import Mathlib.Data.List.Basic
import CallExplorer.Proofs.Server.Operations

namespace CallExplorer

namespace Server

namespace Client

variable {c : Client}

/-- The client after all that it was told to do. -/
def afterAll (c : Client) : List Operation → Client
  | [] => c
  | o :: os => afterAll (o.run c).state os

/-- One client may come from another: nothing is in its way, the requests that were written are
still there, and the stream is no longer than it was. -/
structure Later (c c' : Client) : Prop where
  clear : c'.obstacle = none
  ids : c.ids <+: c'.ids
  incoming : c'.incoming <:+ c.incoming

theorem later_refl (h : c.obstacle = none) : Later c c :=
  ⟨h, List.prefix_refl _, List.suffix_refl _⟩

theorem Later.trans {c' c'' : Client} (h : Later c c') (h' : Later c' c'') : Later c c'' :=
  ⟨h'.clear, h.ids.trans h'.ids, h'.incoming.trans h.incoming⟩

theorem later_run (h : c.obstacle = none) (o : Operation) : Later c (o.run c).state := by
  rcases run_cases h o with hsilent | hasks
  · refine ⟨hsilent.clear, ?_, ?_⟩
    · rw [hsilent.ids]
    · rw [hsilent.incoming]
  · obtain ⟨method, params, hstate⟩ := hasks.state
    refine ⟨hstate.clear, ?_, ?_⟩
    · rw [hasks.ids]
      exact List.prefix_append _ _
    · rw [hasks.incoming]
      exact awaitReply_suffix _ _ _

end Client

-- ============================================ turns

/-- A client that is about to do something. -/
structure Turn where
  operation : Operation
  before : Client

namespace Turn

variable {t : Turn}

/-- What comes of the turn. -/
def outcome (t : Turn) : Outcome Client Failure t.operation.Answer := t.operation.run t.before

/-- The client after the turn. -/
def after (t : Turn) : Client := t.outcome.state

/-- The ids of the requests that are written in the turn. -/
def asked (t : Turn) : List Int := t.after.ids.drop t.before.ids.length

theorem ids_after (h : t.before.obstacle = none) : t.after.ids = t.before.ids ++ t.asked :=
  (List.prefix_iff_eq_append.1 (Client.later_run h t.operation).ids).symm

/-- In a turn nothing is asked and nothing is read, or the next request is made and no other. -/
theorem asked_cases (h : t.before.obstacle = none) :
    (t.asked = [] ∧ t.after.incoming = t.before.incoming)
      ∨ (t.asked = [t.before.nextId] ∧ Client.Asks t.operation t.before) := by
  unfold asked
  rcases Client.run_cases h t.operation with hsilent | hasks
  · have hids : t.after.ids = t.before.ids := hsilent.ids
    left
    rw [hids, List.drop_length]
    exact ⟨rfl, hsilent.incoming⟩
  · have hids : t.after.ids = t.before.ids ++ [t.before.nextId] := hasks.ids
    right
    rw [hids, List.drop_left]
    exact ⟨rfl, hasks⟩

end Turn

/-- The turns of a client that does one thing after the other. -/
def turns : List Operation → Client → List Turn
  | [], _ => []
  | o :: os, c => ⟨o, c⟩ :: turns os (o.run c).state

-- ============================================ runs

section Runs

variable {P : Client → Prop} {os : List Operation} {c : Client}

/-- What every operation preserves holds before every turn. -/
theorem holds_before (hstep : ∀ c, P c → ∀ o : Operation, P (o.run c).state) (h : P c) :
    ∀ t ∈ turns os c, P t.before := by
  induction os generalizing c with
  | nil =>
      intro t ht
      cases ht
  | cons o os ih =>
      intro t ht
      rcases List.mem_cons.1 ht with rfl | ht
      · exact h
      · exact ih (hstep c h o) t ht

/-- What every operation preserves holds in the end. -/
theorem holds_afterAll (hstep : ∀ c, P c → ∀ o : Operation, P (o.run c).state) (h : P c) :
    P (c.afterAll os) := by
  induction os generalizing c with
  | nil => exact h
  | cons o os ih => exact ih (hstep c h o)

/-- Every turn comes from where the turns began. -/
theorem later_before (h : c.obstacle = none) : ∀ t ∈ turns os c, c.Later t.before :=
  holds_before (fun _ hlater o => hlater.trans (Client.later_run hlater.clear o))
    (Client.later_refl h)

/-- A turn finds no more of the stream than the turns before it left. -/
theorem pairwise_turns (h : c.obstacle = none) :
    (turns os c).Pairwise fun u t => t.before.incoming <:+ u.after.incoming := by
  induction os generalizing c with
  | nil => exact .nil
  | cons o os ih =>
      have hnext := (Client.later_run h o).clear
      refine .cons (fun t ht => ?_) (ih hnext)
      exact (later_before hnext t ht).incoming

/-- The requests that were written in the end are those of the turns, one turn after the other. -/
theorem ids_afterAll (h : c.obstacle = none) :
    (c.afterAll os).ids = c.ids ++ (turns os c).flatMap Turn.asked := by
  induction os generalizing c with
  | nil => exact (List.append_nil _).symm
  | cons o os ih =>
      have hfirst : (o.run c).state.ids = c.ids ++ (Turn.mk o c).asked :=
        Turn.ids_after (t := ⟨o, c⟩) h
      show ((o.run c).state.afterAll os).ids = _
      rw [ih (Client.later_run h o).clear, hfirst, turns, List.flatMap_cons, List.append_assoc]

end Runs

end Server

end CallExplorer
