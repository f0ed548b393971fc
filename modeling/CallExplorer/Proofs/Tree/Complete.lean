/-
Listings that are complete, and those that break off.

A derivation says what is shown and which answers were received, but not who gave them. The rows of
a tree are all there (`AllRows`) if some derivation shows them and its answers are those that the
provider gives when it is asked its questions one after the other. A walk that succeeds has such a
derivation behind it. Conversely a provider cannot but follow a derivation that has its own
answers (`visitAll_of_listed`, by induction on the derivation), so a walk comes to all rows exactly
if they are its rows (`allRows_iff`).
-/
import CallExplorer.Proofs.Tree.Questions
import CallExplorer.Proofs.Tree.Unfinished

namespace CallExplorer

namespace Provider

variable {σ : Type} (p : Provider σ) (d : Direction) (limit : Nat) (s : σ)

/-- The rows are those of the whole tree down to the limit, with each question answered as the
provider answers when it is asked them one after the other. -/
def AllRows (rows : List Row) : Prop :=
  ∃ shown asked, Listed d limit (Node.sorted (p.roots.map .root)) shown asked
    ∧ p.exchanges (asked.map (·.query)) s = asked ∧ rows = shown.map (Row.ofNode d)

/-- The listing of the tree stops at a question that fails. -/
def StopsAt (f : Failure) : Prop :=
  ∃ shown asked, Unfinished d limit f (Node.sorted (p.roots.map .root)) shown asked
    ∧ p.exchanges (asked.map (·.query)) s = asked

variable {p d limit s}

/-- A walk shows what a derivation with its answers shows. -/
theorem visitAll_of_listed {siblings shown : List Node} {asked : List Exchange} {depth : Nat}
    (h : Listed d limit siblings shown asked) (hlevel : ∀ n ∈ siblings, n.depth = depth)
    (hasked : p.exchanges (asked.map (·.query)) s = asked) :
    (visitAll (p.visit d limit depth) siblings s).result = .ok (shown.map (Row.ofNode d))
      ∧ (visitAll (p.visit d limit depth) siblings s).state
        = p.afterAll (asked.map (·.query)) s := by
  induction h generalizing depth s with
  | nil => exact ⟨rfl, rfl⟩
  | @leaf n rest behind asked hdepth hbehind ih =>
      rw [List.forall_mem_cons] at hlevel
      obtain ⟨rfl, hrest⟩ := hlevel
      obtain ⟨hresult, hstate⟩ := ih hrest hasked
      rw [visitAll, visit_at_limit hdepth]
      exact ⟨congrArg (Except.map _) hresult, hstate⟩
  | @inner n links rest below behind asked askedBehind hdepth hbelow hbehind ihBelow ihBehind =>
      rw [List.forall_mem_cons] at hlevel
      obtain ⟨rfl, hrest⟩ := hlevel
      -- the first answer is that to the question about the node, and the others come behind it
      obtain ⟨hfirst, hothers⟩ := List.cons.inj hasked
      have hanswer : (p.resolve (question d n) s).result = .ok links := by
        injection hfirst
      rw [List.map_append, exchanges_append] at hothers
      obtain ⟨hasked, haskedBehind⟩ := List.append_inj hothers (by simp)
      obtain ⟨hresult, hstate⟩ := ihBelow (fun c hc => Node.depth_of_mem_kids hc) hasked
      obtain ⟨hresult', hstate'⟩ := ihBehind hrest haskedBehind
      rw [visitAll, visit_of_ok hdepth hanswer]
      simp only [hresult, hstate]
      refine ⟨?_, ?_⟩
      · show Except.map _ (visitAll _ rest _).result = _
        rw [hresult', List.map_cons, List.map_append]
        rfl
      · show (visitAll _ rest _).state = _
        rw [hstate', List.map_cons, List.map_append, afterAll, afterAll_append]

/-- The rows of a walk that succeeds are all rows, and there are no others. -/
theorem allRows_iff {rows : List Row} :
    p.AllRows d limit s rows ↔ (p.unfolding d limit s).result = .ok rows := by
  constructor
  · rintro ⟨shown, asked, hshown, hasked, rfl⟩
    exact (visitAll_of_listed hshown (fun n hn => Node.depth_of_mem_roots hn) hasked).1
  · intro h
    obtain ⟨shown, hshown, hrows⟩ := listed_unfolding h
    exact ⟨shown, _, hshown, (p.puts_unfolding d limit s).exchanges.symm, hrows⟩

/-- No row lies below the limit. -/
theorem AllRows.depth_le {rows : List Row} (h : p.AllRows d limit s rows) :
    ∀ r ∈ rows, r.depth ≤ limit := by
  obtain ⟨shown, asked, hlisted, -, rfl⟩ := h
  rw [List.forall_mem_map]
  refine hlisted.depth_le fun n hn => ?_
  rw [Node.depth_of_mem_roots hn]
  exact Nat.zero_le limit

theorem stopsAt_of_error {f : Failure} (h : (p.unfolding d limit s).result = .error f) :
    p.StopsAt d limit s f := by
  obtain ⟨shown, hshown⟩ := unfinished_unfolding h
  exact ⟨shown, _, hshown, (p.puts_unfolding d limit s).exchanges.symm⟩

end Provider

end CallExplorer
