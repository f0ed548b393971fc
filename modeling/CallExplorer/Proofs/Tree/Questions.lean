/-
One question after the other.

A provider can be asked a list of questions, each in the state that the one before it left. A walk
over a tree does no more than that: its exchanges are what comes of putting its questions one after
the other, and its state is where they lead (`Provider.puts_unfolding`). So what holds of a client
or of an answer whatever is asked holds along every walk, by an induction over the questions that
knows nothing of trees.

What a walk asks about are the items of roots and of answers, so a property that these have is a
property of everything that is asked about (`Provider.asksOnly_unfolding`).
-/
import CallExplorer.Proofs.Tree.Traversal

namespace CallExplorer

open Provider (question)

variable {σ : Type} {p : Provider σ} {d : Direction} {limit : Nat} {s : σ}

namespace Provider

/-- What comes of questions that are put one after the other. -/
def exchanges (p : Provider σ) : List Query → σ → List Exchange
  | [], _ => []
  | q :: qs, s => ⟨q, (p.resolve q s).result⟩ :: p.exchanges qs (p.resolve q s).state

/-- Where questions lead that are put one after the other. -/
def afterAll (p : Provider σ) : List Query → σ → σ
  | [], s => s
  | q :: qs, s => p.afterAll qs (p.resolve q s).state

@[simp] theorem length_exchanges (qs : List Query) (s : σ) :
    (p.exchanges qs s).length = qs.length := by
  induction qs generalizing s with
  | nil => rfl
  | cons q qs ih => exact congrArg (· + 1) (ih _)

theorem exchanges_append (qs more : List Query) (s : σ) :
    p.exchanges (qs ++ more) s = p.exchanges qs s ++ p.exchanges more (p.afterAll qs s) := by
  induction qs generalizing s with
  | nil => rfl
  | cons q qs ih => exact congrArg (_ :: ·) (ih _)

theorem afterAll_append (qs more : List Query) (s : σ) :
    p.afterAll (qs ++ more) s = p.afterAll more (p.afterAll qs s) := by
  induction qs generalizing s with
  | nil => rfl
  | cons q qs ih => exact ih _

/-- What every question keeps holds after any questions. -/
theorem holds_afterAll {P : σ → Prop} (hstep : ∀ q s, P s → P (p.resolve q s).state) (h : P s)
    (qs : List Query) : P (p.afterAll qs s) := by
  induction qs generalizing s with
  | nil => exact h
  | cons q qs ih => exact ih (hstep q s h)

/-- The walk puts its questions to the provider, from the state on, and does nothing else. -/
structure Puts (p : Provider σ) (s : σ) (walk : Traversal σ) : Prop where
  exchanges : walk.exchanges = p.exchanges (walk.exchanges.map (·.query)) s
  state : walk.state = p.afterAll (walk.exchanges.map (·.query)) s

theorem puts_none (result : Except Failure (List Row)) : p.Puts s ⟨result, [], s⟩ := ⟨rfl, rfl⟩

/-- A question in front of a walk. -/
theorem Puts.cons {walk : Traversal σ} {q : Query} (h : p.Puts (p.resolve q s).state walk)
    (result : Except Failure (List Row)) :
    p.Puts s ⟨result, ⟨q, (p.resolve q s).result⟩ :: walk.exchanges, walk.state⟩ :=
  ⟨congrArg (_ :: ·) h.exchanges, h.state⟩

/-- Two walks one after the other. -/
theorem Puts.append {first second : Traversal σ} (h : p.Puts s first)
    (h' : p.Puts first.state second) (result : Except Failure (List Row)) :
    p.Puts s ⟨result, first.exchanges ++ second.exchanges, second.state⟩ := by
  constructor
  · show first.exchanges ++ second.exchanges = _
    rw [List.map_append, exchanges_append, ← h.exchanges, ← h.state, ← h'.exchanges]
  · show second.state = _
    rw [List.map_append, afterAll_append, ← h.state, ← h'.state]

theorem puts_visitAll {visit : Node → σ → Traversal σ} (hvisit : ∀ n s, p.Puts s (visit n s))
    (ns : List Node) (s : σ) : p.Puts s (visitAll visit ns s) := by
  induction ns generalizing s with
  | nil => exact puts_none _
  | cons n rest ih =>
      rw [visitAll]
      cases hr : (visit n s).result with
      | error f => exact hvisit n s
      | ok rows => exact (hvisit n s).append (ih (visit n s).state) _

theorem puts_visit (depth : Nat) (n : Node) (s : σ) : p.Puts s (p.visit d limit depth n s) := by
  induction hleft : limit - depth generalizing depth n s with
  | zero =>
      rw [visit_at_limit (by omega)]
      exact puts_none _
  | succ left ih =>
      have hdepth : depth < limit := by omega
      cases hr : (p.resolve (question d n) s).result with
      | error f =>
          rw [visit_of_error hdepth hr, ← hr]
          exact (puts_none (.error f)).cons _
      | ok links =>
          have hbelow := puts_visitAll (fun c t => ih (depth + 1) c t (by omega))
            (Node.sorted (n.children d links)) (p.resolve (question d n) s).state
          rw [visit_of_ok hdepth hr, ← hr]
          exact hbelow.cons _

/-- A walk over the whole tree puts its questions one after the other. -/
theorem puts_unfolding (p : Provider σ) (d : Direction) (limit : Nat) (s : σ) :
    p.Puts s (p.unfolding d limit s) :=
  puts_visitAll (fun n t => puts_visit 0 n t) _ s

-- ============================================ what the questions are about

variable {T : Item → Prop}

/-- All questions of a walk are about nodes whose items have a property. -/
def AsksOnly (d : Direction) (T : Item → Prop) (walk : Traversal σ) : Prop :=
  ∀ x ∈ walk.exchanges, ∃ n, x.query = question d n ∧ T n.item

theorem asksOnly_visitAll {visit : Node → σ → Traversal σ} {ns : List Node}
    (hvisit : ∀ n ∈ ns, ∀ s, AsksOnly d T (visit n s)) (s : σ) :
    AsksOnly d T (visitAll visit ns s) := by
  induction ns generalizing s with
  | nil =>
      intro x hx
      cases hx
  | cons n rest ih =>
      have hfirst := hvisit n List.mem_cons_self s
      rw [visitAll]
      cases (visit n s).result with
      | error f => exact hfirst
      | ok rows =>
          intro x hx
          rcases List.mem_append.1 hx with hx | hx
          · exact hfirst x hx
          · exact ih (fun m hm => hvisit m (List.mem_cons_of_mem n hm)) _ x hx

/-- A visit asks about its node, and then about nodes that answers named. -/
theorem asksOnly_visit
    (hanswers : ∀ q s links, (p.resolve q s).result = .ok links → ∀ l ∈ links, T l.item)
    (depth : Nat) {n : Node} (hn : T n.item) (s : σ) :
    AsksOnly d T (p.visit d limit depth n s) := by
  induction hleft : limit - depth generalizing depth n s with
  | zero =>
      rw [visit_at_limit (by omega)]
      intro x hx
      cases hx
  | succ left ih =>
      have hdepth : depth < limit := by omega
      cases hr : (p.resolve (question d n) s).result with
      | error f =>
          rw [visit_of_error hdepth hr]
          intro x hx
          rw [List.mem_singleton.1 hx]
          exact ⟨n, rfl, hn⟩
      | ok links =>
          have hkids : ∀ m ∈ Node.sorted (n.children d links), T m.item := by
            intro m hm
            obtain ⟨l, hl, rfl⟩ := List.mem_map.1 (Node.mem_sorted.1 hm)
            exact hanswers _ _ _ hr l hl
          have hbelow := asksOnly_visitAll
            (fun m hm t => ih (depth + 1) (hkids m hm) t (by omega))
            (p.resolve (question d n) s).state
          rw [visit_of_ok hdepth hr]
          intro x hx
          rcases List.mem_cons.1 hx with rfl | hx
          · exact ⟨n, rfl, hn⟩
          · exact hbelow x hx

theorem asksOnly_unfolding (hroots : ∀ i ∈ p.roots, T i)
    (hanswers : ∀ q s links, (p.resolve q s).result = .ok links → ∀ l ∈ links, T l.item)
    (limit : Nat) (s : σ) : AsksOnly d T (p.unfolding d limit s) := by
  refine asksOnly_visitAll (fun n hn t => ?_) s
  obtain ⟨i, hi, rfl⟩ := List.mem_map.1 (Node.mem_sorted.1 hn)
  exact asksOnly_visit (n := .root i) hanswers 0 (hroots i hi) t

end Provider

end CallExplorer
