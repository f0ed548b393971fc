/-
What a listing shows before it breaks off.

A listing breaks off at the first question that fails. Up to there it is like any other: siblings
that were gone through are `Listed`, with all that lies below them. The sibling it breaks off at
either was asked about itself, in vain, or has the place somewhere below. `Unfinished` says so by
three rules. Nothing is said of the siblings behind, since nothing was asked about them.

# Questions and what is shown

Finished or not, a listing asks about the nodes it shows that do not lie at the limit, in the order
in which it shows them, and about no others (`Listed.queries`, `Unfinished.queries`).
-/
import CallExplorer.Proofs.Tree.Listed

namespace CallExplorer

open Provider (question)

variable {σ : Type} {p : Provider σ} {d : Direction} {limit : Nat} {f : Failure} {n : Node}
  {siblings shown : List Node} {asked : List Exchange} {s : σ}

/-- What is shown of siblings up to the first question that fails, and the questions that were put
meanwhile, that one included. -/
inductive Unfinished (d : Direction) (limit : Nat) (f : Failure) :
    (siblings shown : List Node) → (asked : List Exchange) → Prop
  | here {n : Node} {rest : List Node} (hdepth : n.depth < limit) :
      Unfinished d limit f (n :: rest) [n] [⟨question d n, .error f⟩]
  | inside {n : Node} {links : List Link} {rest below : List Node} {asked : List Exchange}
      (hdepth : n.depth < limit)
      (hbelow : Unfinished d limit f (Node.sorted (n.children d links)) below asked) :
      Unfinished d limit f (n :: rest) (n :: below) (⟨question d n, .ok links⟩ :: asked)
  | after {n : Node} {rest shown behind : List Node} {asked askedBehind : List Exchange}
      (hfirst : Listed d limit [n] shown asked)
      (hbehind : Unfinished d limit f rest behind askedBehind) :
      Unfinished d limit f (n :: rest) (shown ++ behind) (asked ++ askedBehind)

-- ============================================ derivations

/-- A first node at which a listing breaks off leaves the others out. -/
theorem Unfinished.first {rest : List Node} (h : Unfinished d limit f [n] shown asked) :
    Unfinished d limit f (n :: rest) shown asked := by
  cases h with
  | here hdepth => exact .here hdepth
  | inside hdepth hbelow => exact .inside hdepth hbelow
  | after hfirst hnone => cases hnone

theorem error_of_map {α β : Type} {g : α → β} {x : Except Failure α} (h : x.map g = .error f) :
    x = .error f := by
  cases x with
  | error e => exact congrArg _ (Except.error.inj h)
  | ok a => cases h

theorem unfinished_visitAll {visit : Node → σ → Traversal σ} {ns : List Node}
    (hlisted : ∀ n ∈ ns, ∀ s rows, (visit n s).result = .ok rows →
      ∃ shown, Listed d limit [n] shown (visit n s).exchanges)
    (hunfinished : ∀ n ∈ ns, ∀ s, (visit n s).result = .error f →
      ∃ shown, Unfinished d limit f [n] shown (visit n s).exchanges)
    (h : (visitAll visit ns s).result = .error f) :
    ∃ shown, Unfinished d limit f ns shown (visitAll visit ns s).exchanges := by
  induction ns generalizing s with
  | nil => cases h
  | cons n rest ih =>
      rw [visitAll] at h ⊢
      cases hr : (visit n s).result with
      | error f' =>
          simp only [hr] at h ⊢
          obtain ⟨shown, hshown⟩ := hunfinished n List.mem_cons_self s (hr.trans h)
          exact ⟨shown, hshown.first⟩
      | ok first =>
          simp only [hr] at h ⊢
          obtain ⟨shown, hshown⟩ := hlisted n List.mem_cons_self s first hr
          obtain ⟨behind, hbehind⟩ := ih (fun m hm => hlisted m (List.mem_cons_of_mem n hm))
            (fun m hm => hunfinished m (List.mem_cons_of_mem n hm)) (error_of_map h)
          exact ⟨shown ++ behind, .after hshown hbehind⟩

/-- A visit that fails, at the depth that the node has, breaks off at the node or below. -/
theorem unfinished_visit (h : (p.visit d limit n.depth n s).result = .error f) :
    ∃ shown, Unfinished d limit f [n] shown (p.visit d limit n.depth n s).exchanges := by
  induction hleft : limit - n.depth generalizing n s with
  | zero =>
      rw [Provider.visit_at_limit (by omega)] at h
      cases h
  | succ left ih =>
      have hdepth : n.depth < limit := by omega
      cases hr : (p.resolve (question d n) s).result with
      | error f' =>
          rw [Provider.visit_of_error hdepth hr] at h ⊢
          obtain rfl : f' = f := Except.error.inj h
          exact ⟨[n], .here hdepth⟩
      | ok links =>
          rw [Provider.visit_of_ok hdepth hr] at h ⊢
          have hlisted : ∀ c ∈ Node.sorted (n.children d links), ∀ t rows,
              (p.visit d limit (n.depth + 1) c t).result = .ok rows →
              ∃ shown, Listed d limit [c] shown (p.visit d limit (n.depth + 1) c t).exchanges := by
            intro c hc t rows hrows
            rw [← Node.depth_of_mem_kids hc] at hrows ⊢
            obtain ⟨shown, hshown, -⟩ := listed_visit hrows
            exact ⟨shown, hshown⟩
          have hunfinished : ∀ c ∈ Node.sorted (n.children d links), ∀ t,
              (p.visit d limit (n.depth + 1) c t).result = .error f → ∃ shown,
                Unfinished d limit f [c] shown (p.visit d limit (n.depth + 1) c t).exchanges := by
            intro c hc t hfails
            have hchild := Node.depth_of_mem_kids hc
            rw [← hchild] at hfails ⊢
            exact ih hfails (by omega)
          obtain ⟨below, hbelow⟩ := unfinished_visitAll hlisted hunfinished (error_of_map h)
          exact ⟨n :: below, .inside hdepth hbelow⟩

/-- A walk that fails breaks off somewhere below the roots. -/
theorem unfinished_unfolding (h : (p.unfolding d limit s).result = .error f) :
    ∃ shown, Unfinished d limit f (Node.sorted (p.roots.map .root)) shown
      (p.unfolding d limit s).exchanges := by
  refine unfinished_visitAll (fun n hn t rows hrows => ?_) (fun n hn t hfails => ?_) h
  · obtain ⟨i, -, rfl⟩ := Node.exists_root hn
    obtain ⟨shown, hshown, -⟩ := listed_visit (n := .root i) hrows
    exact ⟨shown, hshown⟩
  · obtain ⟨i, -, rfl⟩ := Node.exists_root hn
    exact unfinished_visit (n := .root i) hfails

-- ============================================ answers

/-- In a listing every question was answered. -/
theorem Listed.answered (h : Listed d limit siblings shown asked) :
    ∀ x ∈ asked, ∃ links, x.answer = .ok links := by
  induction h with
  | nil =>
      intro x hx
      cases hx
  | leaf hdepth hbehind ih => exact ih
  | inner hdepth hbelow hbehind ihBelow ihBehind =>
      rw [List.forall_mem_cons, List.forall_mem_append]
      exact ⟨⟨_, rfl⟩, ihBelow, ihBehind⟩

/-- Of an unfinished listing the last question failed, and no other. -/
theorem Unfinished.breaksOff (h : Unfinished d limit f siblings shown asked) :
    ∃ before query, asked = before ++ [⟨query, .error f⟩]
      ∧ ∀ x ∈ before, ∃ links, x.answer = .ok links := by
  induction h with
  | here hdepth => exact ⟨[], _, rfl, fun x hx => by cases hx⟩
  | @inside n links rest below asked hdepth hbelow ih =>
      obtain ⟨before, query, rfl, hbefore⟩ := ih
      exact ⟨_ :: before, query, rfl, List.forall_mem_cons.2 ⟨⟨links, rfl⟩, hbefore⟩⟩
  | @after n rest shown behind asked askedBehind hfirst hbehind ih =>
      obtain ⟨before, query, rfl, hbefore⟩ := ih
      exact ⟨asked ++ before, query, (List.append_assoc _ _ _).symm,
        List.forall_mem_append.2 ⟨hfirst.answered, hbefore⟩⟩

-- ============================================ questions

/-- The nodes about which questions are put: those that do not lie at the limit. -/
def expanded (limit : Nat) (shown : List Node) : List Node := shown.filter (·.depth < limit)

theorem expanded_append (shown more : List Node) :
    expanded limit (shown ++ more) = expanded limit shown ++ expanded limit more :=
  List.filter_append shown more

theorem expanded_cons (hdepth : n.depth < limit) (rest : List Node) :
    expanded limit (n :: rest) = n :: expanded limit rest :=
  List.filter_cons_of_pos (decide_eq_true hdepth)

theorem Listed.queries (h : Listed d limit siblings shown asked) :
    asked.map (·.query) = (expanded limit shown).map (question d) := by
  induction h with
  | nil => rfl
  | @leaf n rest behind asked hdepth hbehind ih =>
      have hnone : ¬ n.depth < limit := Nat.not_lt.2 hdepth
      rw [ih, expanded, expanded, List.filter_cons_of_neg (by simpa using hnone)]
  | @inner n links rest below behind asked askedBehind hdepth hbelow hbehind ihBelow ihBehind =>
      rw [expanded_cons hdepth, expanded_append, List.map_cons, List.map_cons, List.map_append,
        List.map_append, ihBelow, ihBehind]

theorem Unfinished.queries (h : Unfinished d limit f siblings shown asked) :
    asked.map (·.query) = (expanded limit shown).map (question d) := by
  induction h with
  | @here n rest hdepth =>
      rw [expanded_cons hdepth]
      rfl
  | @inside n links rest below asked hdepth hbelow ih =>
      rw [expanded_cons hdepth, List.map_cons, List.map_cons, ih]
  | @after n rest shown behind asked askedBehind hfirst hbehind ih =>
      rw [expanded_append, List.map_append, List.map_append, hfirst.queries, ih]

end CallExplorer
