/-
Listings without memory.

A provider may have no memory, so that its answers hang on the question alone. Then a listing
that succeeds is a function of the answers, and no state comes into it: a node shows its row and
then what its sorted children show. It does succeed if no question fails.
-/
import CallExplorer.Proofs.Tree.Traversal

namespace CallExplorer

open Provider (question)

/-- What a provider without memory answers: nothing but the question matters. -/
def Provider.Answers {σ : Type} (p : Provider σ) (answer : Query → Except Failure (List Link)) :
    Prop :=
  ∀ q s, (p.resolve q s).result = answer q

/-- What a node that lies at the given depth shows, down to the limit: its row, and what its
sorted children show. A question without an answer shows nothing. -/
def shown (answer : Query → Except Failure (List Link)) (d : Direction) (limit depth : Nat)
    (n : Node) : List Row :=
  { Row.ofNode d n with depth := depth } ::
    if depth < limit then
      match answer (question d n) with
      | .error _ => []
      | .ok links => (Node.sorted (n.children d links)).flatMap (shown answer d limit (depth + 1))
    else []
termination_by limit - depth

theorem ok_of_map {α β : Type} {f : α → β} {x : Except Failure α} {b : β}
    (h : x.map f = .ok b) : ∃ a, x = .ok a ∧ f a = b := by
  cases x with
  | error e => cases h
  | ok a =>
      injection h with h
      exact ⟨a, rfl, h⟩

section Shown

variable {σ : Type} {p : Provider σ} {answer : Query → Except Failure (List Link)}
  {d : Direction} {limit depth : Nat} {n : Node}

theorem shown_at_limit (h : limit ≤ depth) :
    shown answer d limit depth n = [{ Row.ofNode d n with depth := depth }] := by
  rw [shown, if_neg (by omega)]

theorem shown_of_ok (h : depth < limit) {links : List Link}
    (hr : answer (question d n) = .ok links) :
    shown answer d limit depth n
      = { Row.ofNode d n with depth := depth } ::
          (Node.sorted (n.children d links)).flatMap (shown answer d limit (depth + 1)) := by
  rw [shown, if_pos h, hr]

/-- Visits in a row that succeed show what each of them shows, and each of them succeeds. -/
theorem visitAll_of_ok {visit : Node → σ → Traversal σ} {show' : Node → List Row}
    (hvisit : ∀ n s rows, (visit n s).result = .ok rows → rows = show' n) {ns : List Node} :
    ∀ {s : σ} {rows : List Row}, (visitAll visit ns s).result = .ok rows →
      rows = ns.flatMap show' ∧ ∀ n ∈ ns, ∃ t, (visit n t).result = .ok (show' n) := by
  induction ns with
  | nil =>
      intro s rows h
      injection h with h
      exact ⟨h.symm, fun n hn => by cases hn⟩
  | cons n rest ih =>
      intro s rows h
      rw [visitAll] at h
      cases hr : (visit n s).result with
      | error f =>
          simp only [hr] at h
          cases h
      | ok first =>
          simp only [hr] at h
          have hfirst := hvisit n s first hr
          cases hr₂ : (visitAll visit rest (visit n s).state).result with
          | error f =>
              rw [hr₂] at h
              cases h
          | ok others =>
              obtain ⟨hothers, hrest⟩ := ih hr₂
              rw [hr₂] at h
              injection h with h
              refine ⟨?_, ?_⟩
              · rw [← h, hfirst, hothers, List.flatMap_cons]
              · intro m hm
                rcases List.mem_cons.1 hm with rfl | hm
                · exact ⟨s, by rw [hr, hfirst]⟩
                · exact hrest m hm

/-- A visit that succeeds shows what the answers say, from any state. -/
theorem visit_of_answers (hp : p.Answers answer) {s : σ} {rows : List Row}
    (h : (p.visit d limit depth n s).result = .ok rows) :
    rows = shown answer d limit depth n := by
  induction hleft : limit - depth generalizing depth n s rows with
  | zero =>
      rw [Provider.visit_at_limit (by omega)] at h
      injection h with h
      rw [shown_at_limit (by omega), ← h]
  | succ left ih =>
      have hdepth : depth < limit := by omega
      cases hr : (p.resolve (question d n) s).result with
      | error f =>
          rw [Provider.visit_of_error hdepth hr] at h
          cases h
      | ok links =>
          rw [Provider.visit_of_ok hdepth hr] at h
          obtain ⟨below, hbelow, hrows⟩ := ok_of_map h
          have hkids := (visitAll_of_ok (fun m t rs hm => ih hm (by omega)) hbelow).1
          rw [shown_of_ok hdepth ((hp _ s).symm.trans hr), ← hrows, hkids]

/-- Visits in a row succeed if each of them does. -/
theorem visitAll_eq_flatMap {visit : Node → σ → Traversal σ} {show' : Node → List Row}
    (hvisit : ∀ n s, (visit n s).result = .ok (show' n)) (ns : List Node) (s : σ) :
    (visitAll visit ns s).result = .ok (ns.flatMap show') := by
  induction ns generalizing s with
  | nil => rfl
  | cons n rest ih =>
      rw [visitAll]
      simp only [hvisit n s, ih]
      rfl

/-- A visit succeeds if no question fails. -/
theorem visit_eq_shown (hp : p.Answers answer)
    (hok : ∀ n, ∃ links, answer (question d n) = .ok links) (depth : Nat) (n : Node) (s : σ) :
    (p.visit d limit depth n s).result = .ok (shown answer d limit depth n) := by
  induction hleft : limit - depth generalizing depth n s with
  | zero => rw [Provider.visit_at_limit (by omega), shown_at_limit (by omega)]
  | succ left ih =>
      have hdepth : depth < limit := by omega
      obtain ⟨links, hlinks⟩ := hok n
      rw [Provider.visit_of_ok hdepth ((hp _ s).trans hlinks), shown_of_ok hdepth hlinks]
      have hbelow := visitAll_eq_flatMap (fun m t => ih (depth + 1) m t (by omega))
        (Node.sorted (n.children d links)) (p.resolve (question d n) s).state
      simp only [hbelow]
      rfl

theorem rows_eq_shown (hp : p.Answers answer)
    (hok : ∀ n, ∃ links, answer (question d n) = .ok links) (s : σ) :
    (p.rows d limit s).result
      = .ok ((Node.sorted (p.roots.map .root)).flatMap (shown answer d limit 0)) := by
  rw [(p.rows_eq d limit s).1, Provider.unfolding]
  exact visitAll_eq_flatMap (fun n t => visit_eq_shown hp hok 0 n t) _ s

end Shown

end CallExplorer
