/-
The tree by recursion.

`Explorer.list` keeps the nodes still to be shown in one list. Here is the same tree
without that list: a subtree is the row of its node followed by the subtrees of the
children, by recursion on the levels left. `list_eq_joinAll` says that both ask the
same questions in the same order and come to the same rows or the same failure.
-/
import CallExplorer.Tree.Explorer

namespace CallExplorer

namespace Explorer

variable {σ : Type}

-- ============================================ subtrees

/-- Does something with one thing after the other, and joins what comes of it. -/
def joinAll {α β : Type} (f : α → Action σ Failure (List β)) : List α → Action σ Failure (List β)
  | [] => pure []
  | a :: rest => do
    let xs ← f a
    let ys ← joinAll f rest
    pure (xs ++ ys)

/-- A node and all that lies below it, so many levels deep. -/
def subtree (e : Explorer σ) : (levels : Nat) → Node → Action σ Failure (List Row)
  | 0, n => do
    let row ← e.row n
    pure [row]
  | levels + 1, n => do
    let row ← e.row n
    let kids ← e.sortedChildren n
    let rows ← joinAll (e.subtree levels) kids
    pure (row :: rows)

/-- The whole tree, so many levels below the roots. -/
def unfold (e : Explorer σ) (levels : Nat) : Action σ Failure (List Row) :=
  joinAll (e.subtree levels) (Node.sorted e.rootNodes)

-- ============================================ laws

/-- Working off two lists in a row is working off the one and then the other. -/
theorem joinAll_append {α β : Type} (f : α → Action σ Failure (List β)) (xs ys : List α) :
    joinAll f (xs ++ ys) =
      (do let a ← joinAll f xs; let b ← joinAll f ys; pure (a ++ b)) := by
  induction xs with
  | nil =>
    simp only [List.nil_append, joinAll, Action.pure_bind]
    exact (Action.bind_pure _).symm
  | cons x xs ih =>
    simp only [List.cons_append, joinAll, ih, Action.bind_assoc, Action.pure_bind,
      List.append_assoc]

/-- Only what is done with the members of the list matters. -/
theorem joinAll_congr {α β : Type} {f g : α → Action σ Failure (List β)} {xs : List α}
    (h : ∀ x ∈ xs, f x = g x) : joinAll f xs = joinAll g xs := by
  induction xs with
  | nil => rfl
  | cons x xs ih =>
    simp only [joinAll]
    rw [h x List.mem_cons_self, ih fun y hy => h y (List.mem_cons_of_mem x hy)]

/-- The levels left below a child are one fewer than those below its parent. -/
theorem levels_of_mem_sorted {limit levels : Nat} {n c : Node} {d : Direction}
    {links : List Link} (h : limit - n.depth = levels + 1)
    (hc : c ∈ Node.sorted (n.children d links)) : limit - c.depth = levels := by
  have := Node.depth_of_mem_children (Node.mem_sorted.1 hc)
  omega

/-- A listing shows the subtrees of the pending nodes one after the other. -/
theorem list_eq_joinAll (e : Explorer σ) (limit : Nat) (pending : List Node) :
    e.list limit pending = joinAll (fun n => e.subtree (limit - n.depth) n) pending := by
  fun_induction list e limit pending with
  | case1 => rfl
  | case2 n rest ihKids ihRest =>
    by_cases h : n.depth < limit
    · obtain ⟨k, hk⟩ : ∃ k, limit - n.depth = k + 1 := ⟨limit - n.depth - 1, by omega⟩
      have ih (d : Direction) (links : List Link) := ihKids h d links
      have kids (d : Direction) (links : List Link) :
          joinAll (fun n => e.subtree (limit - n.depth) n) (Node.sorted (n.children d links))
            = joinAll (e.subtree k) (Node.sorted (n.children d links)) :=
        joinAll_congr fun c hc => by rw [levels_of_mem_sorted hk hc]
      simp only [h, dite_true, joinAll, hk, subtree, sortedChildren, ih, joinAll_append, kids,
        Action.bind_assoc, Action.pure_bind, List.cons_append]
    · have hk : limit - n.depth = 0 := by omega
      simp only [h, dite_false, joinAll, hk, subtree, Action.bind_assoc, Action.pure_bind,
        ihRest, List.singleton_append]

end Explorer

end CallExplorer
