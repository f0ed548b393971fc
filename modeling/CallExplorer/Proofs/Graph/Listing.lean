/-
Listings of call graphs.

A call graph keeps nothing in mind and answers every question that is not cancelled. So a
listing over it always succeeds.
-/
import CallExplorer.Graph.Basic
import CallExplorer.Proofs.Tree.Memoryless

namespace CallExplorer

namespace CallGraph

/-- What a call graph answers. -/
def answer (g : CallGraph) (q : Query) : Except Failure (List Link) :=
  if q.cancelled then .error .cancelled else .ok (g.links q.direction q.item)

variable {σ : Type} (g : CallGraph)

/-- Nothing but the question matters to a call graph. -/
theorem provider_answers : (g.provider (σ := σ)).Answers g.answer := by
  rintro ⟨d, i, cancelled⟩ s
  cases cancelled with
  | true => rfl
  | false => rfl

theorem answer_question (d : Direction) (n : Node) :
    g.answer (Provider.question d n) = .ok (g.links d n.item) := rfl

/-- Calls in another order give the links in another order. -/
theorem links_perm {g h : CallGraph} (hcalls : g.calls.Perm h.calls) (d : Direction) (i : Item) :
    (g.links d i).Perm (h.links d i) :=
  (hcalls.filter _).map _

theorem answer_perm {g h : CallGraph} (hcalls : g.calls.Perm h.calls) {q : Query}
    {links links' : List Link} (hg : g.answer q = .ok links) (hh : h.answer q = .ok links') :
    links.Perm links' := by
  rw [answer] at hg hh
  cases hc : q.cancelled with
  | true =>
      rw [hc] at hg
      cases hg
  | false =>
      rw [hc] at hg hh
      injection hg with hg
      injection hh with hh
      rw [← hg, ← hh]
      exact links_perm hcalls q.direction q.item

/-- The rows of a call graph. -/
theorem rows_eq (d : Direction) (limit : Nat) (s : σ) :
    (g.provider.rows d limit s).result
      = .ok ((Node.sorted (g.roots.map .root)).flatMap (shown g.answer d limit 0)) :=
  rows_eq_shown g.provider_answers (fun n => ⟨_, g.answer_question d n⟩) s

end CallGraph

-- ============================================ a symbol to try things on

/-- A function of a small program, on a line of its only document. -/
def Sample.function (name : String) (line : UInt32) : Item where
  name := name
  kind := 12
  tags := none
  detail := none
  uri := ⟨"file:///src/main.rs", by rfl⟩
  range := ⟨⟨line, 0⟩, ⟨line, 9⟩⟩
  selectionRange := ⟨⟨line, 3⟩, ⟨line, 7⟩⟩
  data := none

end CallExplorer
