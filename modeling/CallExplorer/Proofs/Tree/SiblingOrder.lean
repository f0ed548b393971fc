/-
The order of siblings and the order of answers.

Two providers without memory name the same roots and give the same answers, each in an order of
its own. Siblings are sorted, so the two listings have the same rows. Where two siblings agree in
document and start the sort leaves them as they came; then only the order of the rows may differ.

The two trees are compared level by level. Permuted children remain permuted when sorted, and
permuted lists of nodes show permuted rows. Children that lie apart come out of the sort in one
order only.

# What this closes

`rows_of_permuted_answers`, for every direction and every limit: the rows are the same up to
their order, and they are the same list if siblings lie apart.
-/
import Mathlib.Data.List.Pairwise
import Mathlib.Data.List.Perm.Basic
import CallExplorer.Proofs.Graph.Listing
import CallExplorer.Proofs.Tree.Sorting

namespace CallExplorer

open Provider (question)

-- ============================================ sorting

/-- Items lie apart unless they agree in their document and in where they start. -/
def Item.Apart (a b : Item) : Prop := ¬ (a.uri = b.uri ∧ a.range.start = b.range.start)

/-- Nodes that the order does not tell apart show items that do not lie apart. -/
theorem Node.not_apart_of_order {a b : Node} (h : Node.order a b = .eq) :
    ¬ a.item.Apart b.item := by
  obtain ⟨htext, hstart⟩ := Node.order_eq_eq_iff.1 h
  exact fun hapart => hapart ⟨Uri.ext htext, hstart⟩

namespace Node

/-- Nodes that lie apart have only one order as siblings. -/
theorem sorted_eq_of_perm {ns ns' : List Node} (h : ns.Perm ns')
    (hapart : ns.Pairwise fun a b => a.item.Apart b.item) : sorted ns = sorted ns' := by
  have hperm : (sorted ns).Perm (sorted ns') :=
    (sorted_perm ns).trans (h.trans (sorted_perm ns').symm)
  refine hperm.eq_of_pairwise ?_ (pairwise_sorted ns) (pairwise_sorted ns')
  intro a b ha hb hab hba
  have heq : order a b = .eq := Std.OrientedCmp.isLE_antisymm hab hba
  have : Std.Symm fun a b : Node => a.item.Apart b.item :=
    ⟨fun a b hab hba => hab ⟨hba.1.symm, hba.2.symm⟩⟩
  by_contra hne
  exact not_apart_of_order heq (hapart.forall (mem_sorted.1 ha) (h.mem_iff.2 (mem_sorted.1 hb)) hne)

/-- Permuted links are permuted children. -/
theorem children_perm (n : Node) (d : Direction) {links links' : List Link}
    (h : links.Perm links') : (n.children d links).Perm (n.children d links') := h.map _

theorem children_apart (n : Node) (d : Direction) {links : List Link}
    (h : (links.map (·.item)).Pairwise Item.Apart) :
    (n.children d links).Pairwise fun a b => a.item.Apart b.item := by
  rw [List.pairwise_map] at h
  rw [children, List.pairwise_map]
  exact h

end Node

-- ============================================ two listings side by side

section TwoRuns

variable {σ τ : Type} {p : Provider σ} {p' : Provider τ}
  {answer answer' : Query → Except Failure (List Link)} {d : Direction} {limit depth : Nat}

/-- Rows in the order of one listing and of the other: the same up to the order, and the same
list if `apart` holds. -/
def SameRows (apart : Prop) (rows rows' : List Row) : Prop :=
  rows.Perm rows' ∧ (apart → rows = rows')

/-- If both providers show the same below each of some nodes, they do below all of them, taken
as siblings. -/
theorem visitAll_sameRows (hp : p.Answers answer) (hp' : p'.Answers answer') {apart : Prop}
    {ns ns' : List Node} (hns : ns.Perm ns')
    (hapart : apart → ns.Pairwise fun a b => a.item.Apart b.item)
    (heach : ∀ n ∈ ns, ∀ t t' rows rows', (p.visit d limit depth n t).result = .ok rows →
      (p'.visit d limit depth n t').result = .ok rows' → SameRows apart rows rows')
    {s : σ} {s' : τ} {rows rows' : List Row}
    (h : (visitAll (p.visit d limit depth) (Node.sorted ns) s).result = .ok rows)
    (h' : (visitAll (p'.visit d limit depth) (Node.sorted ns') s').result = .ok rows') :
    SameRows apart rows rows' := by
  obtain ⟨hrows, hall⟩ := visitAll_of_ok (fun _ _ _ hn => visit_of_answers hp hn) h
  obtain ⟨hrows', hall'⟩ := visitAll_of_ok (fun _ _ _ hn => visit_of_answers hp' hn) h'
  have hsorted : (Node.sorted ns).Perm (Node.sorted ns') :=
    (Node.sorted_perm ns).trans (hns.trans (Node.sorted_perm ns').symm)
  have hshown : ∀ n ∈ Node.sorted ns,
      SameRows apart (shown answer d limit depth n) (shown answer' d limit depth n) := by
    intro n hn
    obtain ⟨t, ht⟩ := hall n hn
    obtain ⟨t', ht'⟩ := hall' n (hsorted.mem_iff.1 hn)
    exact heach n (Node.mem_sorted.1 hn) t t' _ _ ht ht'
  rw [hrows, hrows']
  refine ⟨hsorted.flatMap fun n hn => (hshown n hn).1, fun happly => ?_⟩
  rw [← Node.sorted_eq_of_perm hns (hapart happly)]
  exact List.flatMap_congr fun n hn => (hshown n hn).2 happly

/-- Two providers whose answers differ in their order only show the same below a node. -/
theorem visit_sameRows (hp : p.Answers answer) (hp' : p'.Answers answer')
    (hanswers : ∀ q links links', answer q = .ok links → answer' q = .ok links' →
      links.Perm links') {apart : Prop}
    (hapart : apart → ∀ q links, answer q = .ok links →
      (links.map (·.item)).Pairwise Item.Apart) {n : Node} :
    ∀ {s : σ} {s' : τ} {rows rows' : List Row}, (p.visit d limit depth n s).result = .ok rows →
      (p'.visit d limit depth n s').result = .ok rows' → SameRows apart rows rows' := by
  induction hleft : limit - depth generalizing depth n with
  | zero =>
      intro s s' rows rows' h h'
      rw [Provider.visit_at_limit (by omega)] at h h'
      injection h with h
      injection h' with h'
      rw [← h, ← h']
      exact ⟨.refl _, fun _ => rfl⟩
  | succ left ih =>
      intro s s' rows rows' h h'
      have hdepth : depth < limit := by omega
      cases hr : (p.resolve (question d n) s).result with
      | error f =>
          rw [Provider.visit_of_error hdepth hr] at h
          cases h
      | ok links =>
          cases hr' : (p'.resolve (question d n) s').result with
          | error f =>
              rw [Provider.visit_of_error hdepth hr'] at h'
              cases h'
          | ok links' =>
              rw [Provider.visit_of_ok hdepth hr] at h
              rw [Provider.visit_of_ok hdepth hr'] at h'
              obtain ⟨below, hbelow, rfl⟩ := ok_of_map h
              obtain ⟨below', hbelow', rfl⟩ := ok_of_map h'
              have hok : answer (question d n) = .ok links := (hp _ s).symm.trans hr
              have hlinks : links.Perm links' :=
                hanswers _ _ _ hok ((hp' _ s').symm.trans hr')
              have hsame := visitAll_sameRows hp hp' (n.children_perm d hlinks)
                (fun happly => n.children_apart d (hapart happly _ _ hok))
                (fun c _ t t' rs rs' => ih (by omega)) hbelow hbelow'
              exact ⟨hsame.1.cons _, fun happly => by rw [hsame.2 happly]⟩

end TwoRuns

/-- The order in which a provider names things hardly matters. Let two providers without memory
name the same roots and give the same answers, each in an order of its own. If both listings
succeed, they have the same rows up to their order; and they are the same list if no two roots
and no two links of one answer agree in document and start. -/
theorem rows_of_permuted_answers {σ τ : Type} {p : Provider σ} {p' : Provider τ}
    {answer answer' : Query → Except Failure (List Link)}
    (hp : p.Answers answer) (hp' : p'.Answers answer') (hroots : p.roots.Perm p'.roots)
    (hanswers : ∀ q links links', answer q = .ok links → answer' q = .ok links' →
      links.Perm links')
    {d : Direction} {limit : Nat} {s : σ} {s' : τ} {rows rows' : List Row}
    (h : (p.rows d limit s).result = .ok rows) (h' : (p'.rows d limit s').result = .ok rows') :
    rows.Perm rows'
      ∧ (p.roots.Pairwise Item.Apart ∧
          (∀ q links, answer q = .ok links → (links.map (·.item)).Pairwise Item.Apart) →
        rows = rows') := by
  rw [(p.rows_eq d limit s).1, Provider.unfolding] at h
  rw [(p'.rows_eq d limit s').1, Provider.unfolding] at h'
  refine visitAll_sameRows hp hp' (hroots.map .root) (fun happly => ?_)
    (fun n _ t t' rs rs' => visit_sameRows hp hp' hanswers fun happly => happly.2) h h'
  rw [List.pairwise_map]
  exact happly.1

-- ============================================ one program, told in two orders

namespace Sample

/-- A function that calls two others. -/
def program : CallGraph where
  roots := [function "main" 0, function "scan" 1]
  calls :=
    [⟨function "main" 0, function "scan" 1, [⟨⟨0, 5⟩, ⟨0, 9⟩⟩]⟩,
      ⟨function "main" 0, function "show" 2, [⟨⟨0, 7⟩, ⟨0, 9⟩⟩]⟩]

/-- The same in the opposite order. -/
def programBackwards : CallGraph := ⟨program.roots.reverse, program.calls.reverse⟩

theorem function_apart {name name' : String} {line line' : UInt32} (h : line ≠ line') :
    (function name line).Apart (function name' line') := by
  rintro ⟨-, hstart⟩
  exact h (congrArg Position.line hstart)

/-- No two calls of the program with one near end have far ends that agree. -/
theorem links_apart (d : Direction) (i : Item) :
    ((program.links d i).map (·.item)).Pairwise Item.Apart := by
  rw [List.pairwise_map, CallGraph.links, List.pairwise_map, List.pairwise_filter]
  refine List.pairwise_pair.2 ?_
  cases d with
  | outgoing => exact fun _ _ => function_apart (by decide)
  | incoming =>
      -- one item is not both callees
      intro hscan hshow
      simp only [Call.near, Item.sameSymbol, Bool.and_eq_true] at hscan hshow
      have hrange := (of_decide_eq_true hscan.2).trans (of_decide_eq_true hshow.2).symm
      exact absurd hrange (by decide)

end Sample

/-- Both orders list the same rows. -/
theorem rows_of_sample_backwards :
    ∃ rows, (Sample.program.provider.rows .outgoing 2 ()).result = .ok rows
      ∧ (Sample.programBackwards.provider.rows .outgoing 2 ()).result = .ok rows := by
  have h := Sample.program.rows_eq .outgoing 2 ()
  have h' := Sample.programBackwards.rows_eq .outgoing 2 ()
  have hsame := rows_of_permuted_answers Sample.program.provider_answers
    Sample.programBackwards.provider_answers (List.reverse_perm Sample.program.roots).symm
    (fun q links links' => CallGraph.answer_perm (List.reverse_perm Sample.program.calls).symm) h h'
  refine ⟨_, h, ?_⟩
  rw [h', hsame.2 ⟨?_, ?_⟩]
  · exact List.pairwise_pair.2 (Sample.function_apart (by decide))
  · intro q links hq
    rw [CallGraph.answer] at hq
    split at hq
    · cases hq
    · injection hq with hq
      rw [← hq]
      exact Sample.links_apart q.direction q.item

end CallExplorer
