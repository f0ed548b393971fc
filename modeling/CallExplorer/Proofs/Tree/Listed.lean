/-
What a successful listing shows.

A listing that succeeds can be told without states and without failures. There are siblings to be
shown, sorted; each of them is followed by what is shown of its children, and only then comes the
next one. `Listed` says so by three rules, and keeps the answers that were received on the way.

# Reading a listing as a derivation

A visit that succeeds has a derivation behind it (`listed_visit`), by induction on the levels
left. So does a listing of any provider, whatever its memory (`listed_of_rows`): its rows are those
of the nodes shown, and its exchanges are those that the provider had to answer.

From there on a fact about listings is an induction with three cases. The first of this kind is
`Listed.all`: what holds of the siblings and passes on to children holds of all that is shown.
-/
import CallExplorer.Proofs.Tree.Memoryless

namespace CallExplorer

open Provider (question)

variable {σ : Type} {p : Provider σ} {d : Direction} {limit : Nat}
  {siblings rest shown behind : List Node} {asked askedBehind : List Exchange} {n : Node}

/-- What is shown of siblings, with all that lies below them down to the limit, and the questions
that were put meanwhile. -/
inductive Listed (d : Direction) (limit : Nat) :
    (siblings shown : List Node) → (asked : List Exchange) → Prop
  | nil : Listed d limit [] [] []
  | leaf {n : Node} {rest behind : List Node} {asked : List Exchange} (hdepth : limit ≤ n.depth)
      (hbehind : Listed d limit rest behind asked) : Listed d limit (n :: rest) (n :: behind) asked
  | inner {n : Node} {links : List Link} {rest below behind : List Node}
      {asked askedBehind : List Exchange} (hdepth : n.depth < limit)
      (hbelow : Listed d limit (Node.sorted (n.children d links)) below asked)
      (hbehind : Listed d limit rest behind askedBehind) :
      Listed d limit (n :: rest) (n :: (below ++ behind))
        (⟨question d n, .ok links⟩ :: (asked ++ askedBehind))

-- ============================================ where siblings lie

theorem Node.exists_root {roots : List Item} (h : n ∈ Node.sorted (roots.map .root)) :
    ∃ i ∈ roots, n = .root i := by
  obtain ⟨i, hi, rfl⟩ := List.mem_map.1 (Node.mem_sorted.1 h)
  exact ⟨i, hi, rfl⟩

theorem Node.depth_of_mem_roots {roots : List Item} (h : n ∈ Node.sorted (roots.map .root)) :
    n.depth = 0 := by
  obtain ⟨i, -, rfl⟩ := Node.exists_root h
  rfl

theorem Node.depth_of_mem_kids {c : Node} {links : List Link}
    (h : c ∈ Node.sorted (n.children d links)) : c.depth = n.depth + 1 :=
  Node.depth_of_mem_children (Node.mem_sorted.1 h)

-- ============================================ derivations

/-- A first node and the others are shown one after the other. -/
theorem Listed.cons (hfirst : Listed d limit [n] shown asked)
    (hrest : Listed d limit rest behind askedBehind) :
    Listed d limit (n :: rest) (shown ++ behind) (asked ++ askedBehind) := by
  cases hfirst with
  | leaf hdepth hnone =>
      cases hnone
      exact .leaf hdepth hrest
  | inner hdepth hbelow hnone =>
      cases hnone
      rw [List.append_nil, List.append_nil]
      exact .inner hdepth hbelow hrest

theorem listed_visitAll {visit : Node → σ → Traversal σ} {ns : List Node}
    (hvisit : ∀ n ∈ ns, ∀ s rows, (visit n s).result = .ok rows →
      ∃ shown, Listed d limit [n] shown (visit n s).exchanges ∧ rows = shown.map (Row.ofNode d)) :
    ∀ {s : σ} {rows : List Row}, (visitAll visit ns s).result = .ok rows →
      ∃ shown, Listed d limit ns shown (visitAll visit ns s).exchanges
        ∧ rows = shown.map (Row.ofNode d) := by
  induction ns with
  | nil =>
      intro s rows h
      injection h with h
      exact ⟨[], .nil, h.symm⟩
  | cons n rest ih =>
      intro s rows h
      rw [visitAll] at h ⊢
      cases hr : (visit n s).result with
      | error f =>
          simp only [hr] at h
          cases h
      | ok first =>
          simp only [hr] at h ⊢
          obtain ⟨others, hothers, hrows⟩ := ok_of_map h
          obtain ⟨shown, hshown, hfirst⟩ := hvisit n List.mem_cons_self s first hr
          obtain ⟨behind, hbehind, hlast⟩ :=
            ih (fun m hm => hvisit m (List.mem_cons_of_mem n hm)) hothers
          refine ⟨shown ++ behind, hshown.cons hbehind, ?_⟩
          rw [← hrows, hfirst, hlast, List.map_append]

/-- A visit that succeeds, at the depth that the node has, lists the node. -/
theorem listed_visit {s : σ} {rows : List Row}
    (h : (p.visit d limit n.depth n s).result = .ok rows) :
    ∃ shown, Listed d limit [n] shown (p.visit d limit n.depth n s).exchanges
      ∧ rows = shown.map (Row.ofNode d) := by
  induction hleft : limit - n.depth generalizing n s rows with
  | zero =>
      rw [Provider.visit_at_limit (by omega)] at h ⊢
      injection h with h
      exact ⟨[n], .leaf (by omega) .nil, h.symm⟩
  | succ left ih =>
      have hdepth : n.depth < limit := by omega
      cases hr : (p.resolve (question d n) s).result with
      | error f =>
          rw [Provider.visit_of_error hdepth hr] at h
          cases h
      | ok links =>
          rw [Provider.visit_of_ok hdepth hr] at h ⊢
          obtain ⟨rowsBelow, hrowsBelow, hrows⟩ := ok_of_map h
          obtain ⟨below, hbelow, hmap⟩ := listed_visitAll (fun c hc t rs hvisit => by
            have hchild := Node.depth_of_mem_kids hc
            rw [← hchild] at hvisit ⊢
            exact ih hvisit (by omega)) hrowsBelow
          have hlisted := Listed.inner hdepth hbelow .nil
          rw [List.append_nil, List.append_nil] at hlisted
          refine ⟨n :: below, hlisted, ?_⟩
          rw [← hrows, hmap]
          rfl

/-- A walk that succeeds lists the roots. -/
theorem listed_unfolding {s : σ} {rows : List Row} (h : (p.unfolding d limit s).result = .ok rows) :
    ∃ shown, Listed d limit (Node.sorted (p.roots.map .root)) shown
        (p.unfolding d limit s).exchanges
      ∧ rows = shown.map (Row.ofNode d) := by
  refine listed_visitAll (fun n hn t rs hvisit => ?_) h
  obtain ⟨i, -, rfl⟩ := Node.exists_root hn
  exact listed_visit (n := .root i) hvisit

/-- A listing that succeeds lists the roots. Its rows are those of the nodes shown, and it put the
questions that the derivation has. -/
theorem listed_of_rows {s : σ} {rows : List Row} (h : (p.rows d limit s).result = .ok rows) :
    ∃ shown, Listed d limit (Node.sorted (p.roots.map .root)) shown
        (p.recorded.rows d limit (s, [])).state.2
      ∧ rows = shown.map (Row.ofNode d) := by
  have hrecorded := (@rows_apply _ _ _ _ _ (follows_recorded p) d limit (s, []) s [] rfl).2
  rw [(p.rows_eq d limit s).1] at h
  rw [hrecorded]
  exact listed_unfolding h

-- ============================================ what holds of all that is shown

/-- What holds of the siblings, and of a child if it holds of the parent that was asked about, holds
of all nodes that are shown. -/
theorem Listed.all_answered {P : Node → Prop} (h : Listed d limit siblings shown asked)
    (hchild : ∀ n c links, P n → n.depth < limit → ⟨question d n, .ok links⟩ ∈ asked →
      c ∈ n.children d links → P c)
    (hsiblings : ∀ n ∈ siblings, P n) : ∀ n ∈ shown, P n := by
  induction h with
  | nil => exact hsiblings
  | @leaf n rest behind asked hdepth hbehind ih =>
      rw [List.forall_mem_cons] at hsiblings ⊢
      exact ⟨hsiblings.1, ih hchild hsiblings.2⟩
  | @inner n links rest below behind asked askedBehind hdepth hbelow hbehind ihBelow ihBehind =>
      rw [List.forall_mem_cons] at hsiblings
      rw [List.forall_mem_cons, List.forall_mem_append]
      refine ⟨hsiblings.1, ihBelow ?_ fun c hc => ?_, ihBehind ?_ hsiblings.2⟩
      · intro m c links' hm hlt hmem
        exact hchild m c links' hm hlt (List.mem_cons_of_mem _ (List.mem_append_left _ hmem))
      · exact hchild n c links hsiblings.1 hdepth List.mem_cons_self (Node.mem_sorted.1 hc)
      · intro m c links' hm hlt hmem
        exact hchild m c links' hm hlt (List.mem_cons_of_mem _ (List.mem_append_right _ hmem))

/-- Whatever the answers were, what passes on from parents to children passes on. -/
theorem Listed.all {P : Node → Prop}
    (hchild : ∀ n c links, P n → n.depth < limit → c ∈ n.children d links → P c)
    (h : Listed d limit siblings shown asked) (hsiblings : ∀ n ∈ siblings, P n) :
    ∀ n ∈ shown, P n :=
  h.all_answered (fun n c links hn hlt _ hc => hchild n c links hn hlt hc) hsiblings

/-- Nothing below siblings lies as high as they do. -/
theorem Listed.le_depth {k : Nat} (h : Listed d limit siblings shown asked)
    (hsiblings : ∀ n ∈ siblings, k ≤ n.depth) : ∀ n ∈ shown, k ≤ n.depth := by
  refine h.all (fun n c links hn _ hc => ?_) hsiblings
  have := Node.depth_of_mem_children hc
  omega

theorem Listed.depth_le (h : Listed d limit siblings shown asked)
    (hsiblings : ∀ n ∈ siblings, n.depth ≤ limit) : ∀ n ∈ shown, n.depth ≤ limit := by
  refine h.all (fun n c links _ hdepth hc => ?_) hsiblings
  have := Node.depth_of_mem_children hc
  omega

/-- All that is shown of the children of a node lies below it. -/
theorem Listed.lt_depth {links : List Link}
    (h : Listed d limit (Node.sorted (n.children d links)) shown asked) :
    ∀ m ∈ shown, n.depth < m.depth := by
  apply h.le_depth
  intro c hc
  exact Nat.le_of_eq (Node.depth_of_mem_kids hc).symm

end CallExplorer
