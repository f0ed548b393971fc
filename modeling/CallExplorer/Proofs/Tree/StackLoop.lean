/-
The listing as a loop over a stack.

`Explorer.list` is a recursion on the nodes still to be shown, the next of them first. An array
used as a stack holds the same nodes upside down: the next one lies at the end, children are
turned around before they go on top, and the rows shown so far are kept beside it. `turns`
counts how often the loop goes round.

# What this closes

The loop ends, whatever the source of the calls answers, and however the answers change on the
way (`loop_ends`). The number of turns is not known beforehand, since it hangs on the answers;
the measure is the one of the recursion, the list of levels left below the pending nodes.
-/
import CallExplorer.Tree.Unfolding

namespace CallExplorer

namespace Explorer

variable {σ : Type}

/-- Goes round so many times at most, with the rows shown so far and the stack, its top at the
end. There are no rows as long as the loop has not come to its end. -/
def loop (e : Explorer σ) (limit : Nat) :
    (turns : Nat) → List Row → List Node → Action σ Failure (Option (List Row))
  | 0, _, _ => pure none
  | turns + 1, rows, stack =>
    match stack.getLast? with
    | none => pure (some rows)
    | some n => do
      let row ← e.row n
      if n.depth < limit then
        let kids ← e.sortedChildren n
        e.loop limit turns (rows ++ [row]) (stack.dropLast ++ kids.reverse)
      else
        e.loop limit turns (rows ++ [row]) stack.dropLast

-- ============================================ one turn

/-- With nothing on the stack the loop is at its end. -/
theorem loop_empty (e : Explorer σ) (limit turns : Nat) (rows : List Row) :
    e.loop limit (turns + 1) rows [] = pure (some rows) := rfl

/-- A turn shows the node on top. Unless that lies at the limit, its children come in its
place. -/
theorem loop_push (e : Explorer σ) (limit turns : Nat) (rows : List Row) (n : Node)
    (below : List Node) :
    e.loop limit (turns + 1) rows (n :: below).reverse = (do
      let row ← e.row n
      if n.depth < limit then
        let kids ← e.sortedChildren n
        e.loop limit turns (rows ++ [row]) (kids ++ below).reverse
      else e.loop limit turns (rows ++ [row]) below.reverse) := by
  have hlast : (n :: below).reverse.getLast? = some n := by simp
  have hdrop : (n :: below).reverse.dropLast = below.reverse := by simp
  rw [loop]
  simp only [hlast, hdrop, List.reverse_append]

-- ============================================ the whole loop

/-- From any rows and any stack the loop comes to its end, and there it agrees with the
recursion: in the rows that it adds, in the events, in the state, and in the failure if there
is one. -/
theorem loop_ends (e : Explorer σ) (limit : Nat) (pending : List Node) :
    ∀ (rows : List Row) (s : σ), ∃ turns,
      e.loop limit turns rows pending.reverse s
        = (do let more ← e.list limit pending; pure (some (rows ++ more))) s := by
  induction pending using list.induct limit with
  | case1 =>
      intro rows s
      refine ⟨1, ?_⟩
      rw [List.reverse_nil, loop_empty, list, Action.pure_bind, List.append_nil]
  | case2 n rest ihKids ihRest =>
      intro rows s
      have hrow : e.row n s = ⟨.ok (.ofNode (e.direction s) n), [], s⟩ := rfl
      by_cases hdepth : n.depth < limit
      · -- one turn for the node; its children and the rest take the turns of the induction
        cases hask : e.ask n.item s with
        | mk result events t =>
            cases result with
            | error f =>
                refine ⟨1, ?_⟩
                have hkids : e.sortedChildren n s = ⟨.error f, events, t⟩ :=
                  Action.bind_of_error hask
                rw [loop_push, list, Action.bind_of_ok hrow, Action.bind_assoc,
                  Action.bind_of_ok hrow]
                simp only [hdepth, if_true, dite_true]
                rw [Action.bind_of_error hkids, Action.bind_assoc, Action.bind_of_error hask]
            | ok answer =>
                obtain ⟨d, links⟩ := answer
                obtain ⟨turns, hturns⟩ :=
                  ihKids hdepth d links (rows ++ [.ofNode (e.direction s) n]) t
                refine ⟨turns + 1, ?_⟩
                have hkids :
                    e.sortedChildren n s
                      = ⟨.ok (Node.sorted (n.children d links)), events ++ [], t⟩ :=
                  Action.bind_of_ok hask
                rw [loop_push, list, Action.bind_of_ok hrow, Action.bind_assoc,
                  Action.bind_of_ok hrow]
                simp only [hdepth, if_true, dite_true]
                rw [Action.bind_of_ok hkids, Action.bind_assoc, Action.bind_of_ok hask, hturns]
                simp only [Action.bind_assoc, Action.pure_bind, List.append_nil,
                  List.append_assoc, List.singleton_append]
      · obtain ⟨turns, hturns⟩ := ihRest (rows ++ [.ofNode (e.direction s) n]) s
        refine ⟨turns + 1, ?_⟩
        rw [loop_push, list, Action.bind_of_ok hrow, Action.bind_assoc, Action.bind_of_ok hrow]
        simp only [hdepth, if_false, dite_false]
        rw [hturns]
        simp only [Action.bind_assoc, Action.pure_bind, List.append_assoc, List.singleton_append]

end Explorer

end CallExplorer
