/-
Listings and the recursion over the tree.

A listing works off a stack. This file says what it amounts to, without a stack and without
actions: visit the roots one after the other; to visit a node, take down its row and then,
unless it lies at the limit, put one question about its item and visit the children, sorted,
one level further down. Depth is counted on the way down here, not read off the ancestors.

A traversal says all that comes of such a walk: the rows or the failure, every question along
with its answer, in order, and the state the provider ends in. The provider is any at all: what
it answers may hang on what it was asked before, and it may fail at any question.

# What this closes

`expand_eq_unfolding`: rows, questions, answers, failure and final state of a listing are those
of the recursion; a failure ends it at once, with no rows and no further question; and the
stack loop comes to its end, cycles in the call graph or not.

Questions are made visible by a provider that writes down what it is asked (`recorded`). One
induction (`walksAs_subtree`) serves both that provider and the bare one, since all it needs to
know is how a state of the one stands for a state of the other.
-/
import CallExplorer.Host
import CallExplorer.Proofs.Tree.StackLoop

namespace CallExplorer

variable {σ : Type}

-- ============================================ questions and answers

/-- A question, and what came back. -/
structure Exchange where
  query : Query
  answer : Except Failure (List Link)

/-- A provider that writes down what it is asked and what it answers. -/
def Provider.recorded (p : Provider σ) : Provider (σ × List Exchange) where
  roots := p.roots
  resolve q := fun (s, past) =>
    let o := p.resolve q s
    ⟨o.result, o.events, (o.state, past ++ [⟨q, o.result⟩])⟩

-- ============================================ the recursion

/-- What comes of walking over a tree or a part of it. -/
structure Traversal (σ : Type) where
  result : Except Failure (List Row)
  exchanges : List Exchange
  state : σ

/-- Visits one node after the other, as long as no visit fails. -/
def visitAll (visit : Node → σ → Traversal σ) : List Node → σ → Traversal σ
  | [], s => ⟨.ok [], [], s⟩
  | n :: rest, s =>
    let first := visit n s
    match first.result with
    | .error _ => first
    | .ok rows =>
      let others := visitAll visit rest first.state
      ⟨others.result.map (rows ++ ·), first.exchanges ++ others.exchanges, others.state⟩

namespace Provider

/-- The question about a node. -/
def question (d : Direction) (n : Node) : Query := { direction := d, item := n.item }

/-- Visits a node that lies at the given depth: its row, then one question, then the children
in order, each with all that lies below it before the next. -/
def visit (p : Provider σ) (d : Direction) (limit depth : Nat) (n : Node) (s : σ) :
    Traversal σ :=
  let row : Row := { Row.ofNode d n with depth := depth }
  if depth < limit then
    let o := p.resolve (question d n) s
    match o.result with
    | .error f => ⟨.error f, [⟨question d n, .error f⟩], o.state⟩
    | .ok links =>
      let below :=
        visitAll (p.visit d limit (depth + 1)) (Node.sorted (n.children d links)) o.state
      ⟨below.result.map (row :: ·), ⟨question d n, .ok links⟩ :: below.exchanges, below.state⟩
  else ⟨.ok [row], [], s⟩
termination_by limit - depth

/-- Visits the roots in order. -/
def unfolding (p : Provider σ) (d : Direction) (limit : Nat) (s : σ) : Traversal σ :=
  visitAll (p.visit d limit 0) (Node.sorted (p.roots.map .root)) s

variable {p : Provider σ} {d : Direction} {limit depth : Nat} {n : Node} {s : σ}

/-- At the limit nothing is asked. -/
theorem visit_at_limit (h : limit ≤ depth) :
    p.visit d limit depth n s = ⟨.ok [{ Row.ofNode d n with depth := depth }], [], s⟩ := by
  rw [visit, if_neg (by omega)]

/-- A failing question ends the visit. -/
theorem visit_of_error (h : depth < limit) {f : Failure}
    (hr : (p.resolve (question d n) s).result = .error f) :
    p.visit d limit depth n s
      = ⟨.error f, [⟨question d n, .error f⟩], (p.resolve (question d n) s).state⟩ := by
  rw [visit, if_pos h]
  simp only [hr]

/-- An answered question leads on to the children. -/
theorem visit_of_ok (h : depth < limit) {links : List Link}
    (hr : (p.resolve (question d n) s).result = .ok links) :
    p.visit d limit depth n s
      = (let below := visitAll (p.visit d limit (depth + 1)) (Node.sorted (n.children d links))
          (p.resolve (question d n) s).state
        ⟨below.result.map ({ Row.ofNode d n with depth := depth } :: ·),
          ⟨question d n, .ok links⟩ :: below.exchanges, below.state⟩) := by
  rw [visit, if_pos h]
  simp only [hr]

end Provider

open Provider (question)

-- ============================================ the first failure is the last question

/-- A traversal breaks off at the first question that fails, with that failure; if none
does, it has rows. -/
def Traversal.BreaksOff (t : Traversal σ) : Prop :=
  match t.result with
  | .ok _ => ∀ x ∈ t.exchanges, ∃ links, x.answer = .ok links
  | .error f => ∃ before query, t.exchanges = before ++ [⟨query, .error f⟩]
      ∧ ∀ x ∈ before, ∃ links, x.answer = .ok links

/-- Putting answered questions in front of a traversal does not change how it ends. -/
theorem Traversal.BreaksOff.after {t : Traversal σ} (h : t.BreaksOff) (g : List Row → List Row)
    {past : List Exchange} (hpast : ∀ x ∈ past, ∃ links, x.answer = .ok links) :
    Traversal.BreaksOff ⟨t.result.map g, past ++ t.exchanges, t.state⟩ := by
  obtain ⟨result, exchanges, state⟩ := t
  cases result with
  | ok rows =>
      intro x hx
      rcases List.mem_append.1 hx with hx | hx
      · exact hpast x hx
      · exact h x hx
  | error f =>
      obtain ⟨before, query, hlast, hbefore⟩ := h
      refine ⟨past ++ before, query, ?_, ?_⟩
      · show past ++ exchanges = _
        rw [show exchanges = _ from hlast, List.append_assoc]
      · intro x hx
        rcases List.mem_append.1 hx with hx | hx
        · exact hpast x hx
        · exact hbefore x hx

theorem breaksOff_visitAll {visit : Node → σ → Traversal σ}
    (h : ∀ n s, (visit n s).BreaksOff) (ns : List Node) (s : σ) :
    (visitAll visit ns s).BreaksOff := by
  induction ns generalizing s with
  | nil =>
      intro x hx
      cases hx
  | cons n rest ih =>
      have hfirst := h n s
      rw [visitAll]
      cases hr : (visit n s).result with
      | error f => exact hfirst
      | ok rows =>
          refine (ih (visit n s).state).after (rows ++ ·) ?_
          simpa only [Traversal.BreaksOff, hr] using hfirst

/-- Every visit breaks off at its first failure. -/
theorem breaksOff_visit (p : Provider σ) (d : Direction) (limit depth : Nat) (n : Node) (s : σ) :
    (p.visit d limit depth n s).BreaksOff := by
  induction hleft : limit - depth generalizing depth n s with
  | zero =>
      rw [Provider.visit_at_limit (by omega)]
      intro x hx
      cases hx
  | succ left ih =>
      have hdepth : depth < limit := by omega
      cases hr : (p.resolve (question d n) s).result with
      | error f =>
          rw [Provider.visit_of_error hdepth hr]
          exact ⟨[], _, rfl, fun x hx => by cases hx⟩
      | ok links =>
          rw [Provider.visit_of_ok hdepth hr]
          have hbelow := breaksOff_visitAll
            (fun c t => ih (depth + 1) c t (by omega))
            (Node.sorted (n.children d links)) (p.resolve (question d n) s).state
          have hasked : ∀ x ∈ [(⟨question d n, .ok links⟩ : Exchange)],
              ∃ links, x.answer = .ok links := by
            intro x hx
            rw [List.mem_singleton.1 hx]
            exact ⟨links, rfl⟩
          exact hbelow.after (_ :: ·) hasked

-- ============================================ what a walk keeps

section Keeping

variable {σ : Type} {p : Provider σ} {R : σ → σ → Prop} {d : Direction} {limit : Nat}

/-- What each visit keeps is kept by visits in a row. -/
theorem visitAll_keeps (hrefl : ∀ s, R s s) (htrans : ∀ a b c, R a b → R b c → R a c)
    {visit : Node → σ → Traversal σ} (hvisit : ∀ n s, R s (visit n s).state) (ns : List Node)
    (s : σ) : R s (visitAll visit ns s).state := by
  induction ns generalizing s with
  | nil => exact hrefl s
  | cons n rest ih =>
      have hfirst := hvisit n s
      rw [visitAll]
      cases hr : (visit n s).result with
      | error f => exact hfirst
      | ok rows => exact htrans _ _ _ hfirst (ih _)

/-- What each question keeps is kept by every visit. -/
theorem Provider.visit_keeps (hrefl : ∀ s, R s s) (htrans : ∀ a b c, R a b → R b c → R a c)
    (hp : ∀ q s, R s (p.resolve q s).state) (depth : Nat) (n : Node) (s : σ) :
    R s (p.visit d limit depth n s).state := by
  induction hleft : limit - depth generalizing depth n s with
  | zero =>
      rw [Provider.visit_at_limit (by omega)]
      exact hrefl s
  | succ left ih =>
      have hdepth : depth < limit := by omega
      have hasked := hp (question d n) s
      cases hr : (p.resolve (question d n) s).result with
      | error f =>
          rw [Provider.visit_of_error hdepth hr]
          exact hasked
      | ok links =>
          rw [Provider.visit_of_ok hdepth hr]
          exact htrans _ _ _ hasked
            (visitAll_keeps hrefl htrans (fun m t => ih (depth + 1) m t (by omega)) _ _)

end Keeping

-- ============================================ one provider standing for another

/-- The provider `p'` does what `p` does, question by question. `Stands t s past` says that a
state `t` of it stands for the state `s` after the exchanges `past`. -/
structure Follows {τ : Type} (p : Provider σ) (p' : Provider τ)
    (Stands : τ → σ → List Exchange → Prop) : Prop where
  roots : p'.roots = p.roots
  result : ∀ {t s past}, Stands t s past →
    ∀ q, (p'.resolve q t).result = (p.resolve q s).result
  state : ∀ {t s past}, Stands t s past →
    ∀ q, Stands (p'.resolve q t).state (p.resolve q s).state
      (past ++ [⟨q, (p.resolve q s).result⟩])

/-- Two states are the same, whatever was asked before. -/
def SameState (t s : σ) (_ : List Exchange) : Prop := t = s

theorem follows_self (p : Provider σ) : Follows p p SameState where
  roots := rfl
  result h q := by rw [show _ = _ from h]
  state h q := congrArg (fun t => (p.resolve q t).state) h

/-- A recorded provider has the exchanges in its state. -/
theorem follows_recorded (p : Provider σ) :
    Follows p p.recorded fun t s past => t = (s, past) where
  roots := rfl
  result h q := by rw [h]; rfl
  state h q := by rw [h]; rfl

section Running

variable {τ : Type} {p : Provider σ} {p' : Provider τ} {Stands : τ → σ → List Exchange → Prop}

/-- An action on sessions that look in a direction walks as `walk` does: it comes to the same
result, and its state stands for where the walk ends, after the exchanges of the walk. -/
def WalksAs (Stands : τ → σ → List Exchange → Prop) (d : Direction)
    (x : Action (Session τ) Failure (List Row)) (walk : σ → Traversal σ) : Prop :=
  ∀ ⦃t s past⦄, Stands t s past → ∃ events t',
    x ⟨d, t⟩ = ⟨(walk s).result, events, ⟨d, t'⟩⟩
      ∧ Stands t' (walk s).state (past ++ (walk s).exchanges)

/-- Asking for the children of a node is one exchange. -/
theorem sortedChildren_apply (h : Follows p p' Stands) (d : Direction) (n : Node) {t : τ} {s : σ}
    {past : List Exchange} (hs : Stands t s past) :
    ∃ events t',
      p'.explorer.sortedChildren n ⟨d, t⟩
          = ⟨(p.resolve (question d n) s).result.map fun links => Node.sorted (n.children d links),
              events, ⟨d, t'⟩⟩
        ∧ Stands t' (p.resolve (question d n) s).state
            (past ++ [⟨question d n, (p.resolve (question d n) s).result⟩]) := by
  have hresult := h.result hs (question d n)
  have hstate := h.state hs (question d n)
  have hresolve : p'.explorer.resolve d n.item ⟨d, t⟩
      = ⟨(p.resolve (question d n) s).result, (p'.resolve (question d n) t).events,
          ⟨d, (p'.resolve (question d n) t).state⟩⟩ := by
    rw [← hresult]
    rfl
  have hask : p'.explorer.ask n.item ⟨d, t⟩
      = (do
          let links ← p'.explorer.resolve d n.item
          Action.note (.expandedCall d n.item.name links.length)
          pure (d, links)) ⟨d, t⟩ := rfl
  cases hr : (p.resolve (question d n) s).result with
  | error f =>
      rw [hr] at hresolve hstate
      exact ⟨_, _, Action.bind_of_error (hask.trans (Action.bind_of_error hresolve)), hstate⟩
  | ok links =>
      rw [hr] at hresolve hstate
      exact ⟨_, _, Action.bind_of_ok (hask.trans (Action.bind_of_ok hresolve)), hstate⟩

/-- If the visit of each node is walked, so are the visits in a row. -/
theorem walksAs_joinAll {d : Direction} {ns : List Node}
    {act : Node → Action (Session τ) Failure (List Row)} {visit : Node → σ → Traversal σ}
    (h : ∀ n ∈ ns, WalksAs Stands d (act n) (visit n)) :
    WalksAs Stands d (Explorer.joinAll act ns) (visitAll visit ns) := by
  induction ns with
  | nil =>
      intro t s past hs
      refine ⟨[], t, rfl, ?_⟩
      show Stands t s (past ++ [])
      rwa [List.append_nil]
  | cons n rest ih =>
      intro t s past hs
      have hrest := ih fun m hm => h m (List.mem_cons_of_mem n hm)
      obtain ⟨events, t₁, hfirst, hs₁⟩ := h n List.mem_cons_self hs
      rw [Explorer.joinAll, visitAll]
      cases hr : (visit n s).result with
      | error f =>
          rw [hr] at hfirst
          rw [Action.bind_of_error hfirst]
          exact ⟨events, t₁, by rw [hr], hs₁⟩
      | ok rows =>
          rw [hr] at hfirst
          rw [Action.bind_of_ok hfirst]
          obtain ⟨more, t₂, hothers, hs₂⟩ := hrest hs₁
          rw [List.append_assoc] at hs₂
          cases hr₂ : (visitAll visit rest (visit n s).state).result with
          | error f =>
              rw [hr₂] at hothers
              rw [Action.bind_of_error hothers]
              exact ⟨_, t₂, by simp only [hr₂]; rfl, hs₂⟩
          | ok others =>
              rw [hr₂] at hothers
              rw [Action.bind_of_ok hothers]
              exact ⟨_, t₂, by simp only [hr₂]; rfl, hs₂⟩

/-- A subtree is walked as its node is visited, at the depth that the node has by its
ancestors. -/
theorem walksAs_subtree (h : Follows p p' Stands) (d : Direction) (limit levels : Nat) :
    ∀ n : Node, limit - n.depth = levels →
      WalksAs Stands d (p'.explorer.subtree levels n) (p.visit d limit n.depth n) := by
  induction levels with
  | zero =>
      intro n hn t s past hs
      rw [Provider.visit_at_limit (by omega)]
      refine ⟨[], t, rfl, ?_⟩
      rwa [List.append_nil]
  | succ levels ih =>
      intro n hn t s past hs
      have hdepth : n.depth < limit := by omega
      obtain ⟨events, t₁, hkids, hs₁⟩ := sortedChildren_apply h d n hs
      have hrow : p'.explorer.row n ⟨d, t⟩ = ⟨.ok (.ofNode d n), [], ⟨d, t⟩⟩ := rfl
      rw [Explorer.subtree, Action.bind_of_ok hrow]
      cases hr : (p.resolve (question d n) s).result with
      | error f =>
          rw [hr] at hkids hs₁
          rw [Provider.visit_of_error hdepth hr, Action.bind_of_error hkids]
          exact ⟨_, t₁, rfl, hs₁⟩
      | ok links =>
          rw [hr] at hkids hs₁
          rw [Provider.visit_of_ok hdepth hr, Action.bind_of_ok hkids]
          -- the depth a child has by its ancestors is the one counted on the way down
          have hbelow : WalksAs Stands d
              (Explorer.joinAll (p'.explorer.subtree levels) (Node.sorted (n.children d links)))
              (visitAll (p.visit d limit (n.depth + 1)) (Node.sorted (n.children d links))) := by
            refine walksAs_joinAll fun c hc => ?_
            have hchild := Node.depth_of_mem_children (Node.mem_sorted.1 hc)
            rw [← hchild]
            exact ih c (by omega)
          obtain ⟨more, t₂, hrows, hs₂⟩ := hbelow hs₁
          rw [List.append_assoc] at hs₂
          cases hr₂ : (visitAll (p.visit d limit (n.depth + 1)) (Node.sorted (n.children d links))
              (p.resolve (question d n) s).state).result with
          | error f =>
              rw [hr₂] at hrows
              rw [Action.bind_of_error hrows]
              exact ⟨_, t₂, by simp only [hr₂]; rfl, hs₂⟩
          | ok rows =>
              rw [hr₂] at hrows
              rw [Action.bind_of_ok hrows]
              exact ⟨_, t₂, by simp only [hr₂]; rfl, hs₂⟩

/-- The listing of the roots, sorted, is walked as the recursion says. -/
theorem walksAs_list (h : Follows p p' Stands) (d : Direction) (limit : Nat) :
    WalksAs Stands d (p'.explorer.list limit (Node.sorted p'.explorer.rootNodes))
      (p.unfolding d limit) := by
  have hroots : p'.explorer.rootNodes = p.roots.map .root := by
    rw [Explorer.rootNodes, ← h.roots]
    rfl
  rw [Explorer.list_eq_joinAll, hroots]
  refine walksAs_joinAll fun n hn => ?_
  obtain ⟨i, -, rfl⟩ := List.mem_map.1 (Node.mem_sorted.1 hn)
  exact walksAs_subtree h d limit _ (.root i) rfl

/-- So is the whole run, whose last event changes nothing. -/
theorem rows_apply (h : Follows p p' Stands) (d : Direction) (limit : Nat) {t : τ} {s : σ}
    {past : List Exchange} (hs : Stands t s past) :
    (p'.rows d limit t).result = (p.unfolding d limit s).result
      ∧ Stands (p'.rows d limit t).state (p.unfolding d limit s).state
          (past ++ (p.unfolding d limit s).exchanges) := by
  obtain ⟨events, t', hlist, hs'⟩ := walksAs_list h d limit hs
  have hexpand : p'.explorer.expand limit ⟨d, t⟩
      = (do
          let rows ← p'.explorer.list limit (Node.sorted p'.explorer.rootNodes)
          Action.note (.expandedTree rows.length limit)
          pure rows) ⟨d, t⟩ := rfl
  rw [Provider.rows]
  cases hr : (p.unfolding d limit s).result with
  | error f =>
      rw [hr] at hlist
      rw [hexpand, Action.bind_of_error hlist]
      exact ⟨rfl, hs'⟩
  | ok rows =>
      rw [hr] at hlist
      rw [hexpand, Action.bind_of_ok hlist]
      exact ⟨rfl, hs'⟩

end Running

-- ============================================ listings and the recursion

/-- A listing of a provider has the outcome of the recursion and ends in its state. -/
theorem Provider.rows_eq (p : Provider σ) (d : Direction) (limit : Nat) (s : σ) :
    (p.rows d limit s).result = (p.unfolding d limit s).result
      ∧ (p.rows d limit s).state = (p.unfolding d limit s).state := by
  have hs : SameState s s [] := rfl
  exact rows_apply (follows_self p) d limit hs

/-- A listing agrees with the recursion over the tree, for every provider and from each of its
states: in the rows or the failure, in the questions the provider gets and their order, and in
the state it is left in. Writing down the questions changes nothing. The first question that
fails is the last one, and its failure is the outcome. And the loop over a stack comes to its
end with that very outcome. -/
theorem expand_eq_unfolding (p : Provider σ) (d : Direction) (limit : Nat) (s : σ) :
    let walk := p.unfolding d limit s
    ((p.rows d limit s).result = walk.result ∧ (p.rows d limit s).state = walk.state)
      ∧ ((p.recorded.rows d limit (s, [])).result = walk.result
        ∧ (p.recorded.rows d limit (s, [])).state = (walk.state, walk.exchanges))
      ∧ walk.BreaksOff
      ∧ ∃ turns events,
          p.explorer.loop limit turns [] (Node.sorted p.explorer.rootNodes).reverse ⟨d, s⟩
            = ⟨walk.result.map some, events, ⟨d, walk.state⟩⟩ := by
  intro walk
  have hrecorded := @rows_apply _ _ _ _ _ (follows_recorded p) d limit (s, []) s [] rfl
  refine ⟨p.rows_eq d limit s, hrecorded,
    breaksOff_visitAll (fun n t => breaksOff_visit p d limit 0 n t) _ s, ?_⟩
  obtain ⟨turns, hturns⟩ :=
    p.explorer.loop_ends limit (Node.sorted p.explorer.rootNodes) [] ⟨d, s⟩
  have hs : SameState s s [] := rfl
  obtain ⟨events, t, hlist, ht⟩ := walksAs_list (follows_self p) d limit hs
  obtain rfl : t = walk.state := ht
  refine ⟨turns, events, ?_⟩
  rw [hturns]
  cases hr : walk.result with
  | error f =>
      rw [show (p.unfolding d limit s).result = walk.result from rfl, hr] at hlist
      rw [Action.bind_of_error hlist]
      rfl
  | ok rows =>
      rw [show (p.unfolding d limit s).result = walk.result from rfl, hr] at hlist
      rw [Action.bind_of_ok hlist]
      simp [walk, Action.pure_apply, Except.map]

end CallExplorer
