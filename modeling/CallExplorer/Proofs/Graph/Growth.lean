/-
Call graphs that grow.

A fixture grows when keys, roots and calls are put in, wherever they are put. What it showed
before it goes on showing: the rows stand in the same order as before, each as it was, and the
new ones stand between them. New calls may lead back to old symbols, so the tree can grow in many
places at once and below each of them again.

The tree below a node is compared level by level. The links of an item are picked from the calls
in order, so those there were are still there in order; sorting keeps that (`sorted_sublist`),
and below each child the same holds one level further down.

# What this closes

`rows_sublist_of_grows`, for every direction and every limit.
-/
import Mathlib.Data.List.Flatten
import CallExplorer.Proofs.Graph.Listing
import CallExplorer.Proofs.Graph.Loading
import CallExplorer.Proofs.Tree.Sorting

namespace CallExplorer

-- ============================================ fixtures

/-- What is under a key remains, and so does the order of the roots and calls there were. -/
structure Fixture.Grows (f f' : Fixture) : Prop where
  items : ∀ key i, f.item key = .ok i → f'.item key = .ok i
  roots : f.roots.Sublist f'.roots
  calls : f.calls.Sublist f'.calls

/-- New keys may stand anywhere among the old ones, as long as all of them differ. -/
theorem Fixture.grows_of_sublist {f f' : Fixture} (hkeys : (f'.items.map (·.1)).Nodup)
    (hitems : f.items.Sublist f'.items) (hroots : f.roots.Sublist f'.roots)
    (hcalls : f.calls.Sublist f'.calls) : f.Grows f' := by
  refine ⟨fun key i h => ?_, hroots, hcalls⟩
  have hkeys₀ : (f.items.map (·.1)).Nodup := (hitems.map _).nodup hkeys
  rw [item_eq_ok_iff hkeys₀] at h
  rw [item_eq_ok_iff hkeys]
  exact hitems.subset h

/-- If each entry of a list stands for one thing only, the entries of a part of the list stand
for a part of the things. -/
theorem sublist_of_forall₂ {α β : Type} {R R' : α → β → Prop}
    (hone : ∀ x y y', R x y → R' x y' → y = y') {xs xs' : List α} (h : xs.Sublist xs') :
    ∀ {ys ys' : List β}, List.Forall₂ R xs ys → List.Forall₂ R' xs' ys' → ys.Sublist ys' := by
  induction h with
  | slnil =>
      intro ys ys' hys hys'
      cases hys
      exact List.nil_sublist _
  | cons x _ ih =>
      intro ys ys' hys hys'
      cases hys' with
      | cons _ hrest => exact (ih hys hrest).cons _
  | cons_cons x _ ih =>
      intro ys ys' hys hys'
      cases hys with
      | cons hx hrest =>
          cases hys' with
          | cons hx' hrest' =>
              rw [hone x _ _ hx hx']
              exact (ih hrest hrest').cons_cons _

theorem Fixture.Grows.graphs {f f' : Fixture} (h : f.Grows f') {g g' : CallGraph} (hf : f.Loads g)
    (hf' : f'.Loads g') : g.roots.Sublist g'.roots ∧ g.calls.Sublist g'.calls := by
  have hitem : ∀ (key : String) (i i' : Item), f.item key = .ok i → f'.item key = .ok i' →
      i = i' := by
    intro key i i' hi hi'
    rw [h.items key i hi] at hi'
    injection hi'
  constructor
  · exact sublist_of_forall₂ hitem h.roots hf.roots hf'.roots
  · refine sublist_of_forall₂ (fun k c c' hc hc' => ?_) h.calls hf.calls hf'.calls
    obtain ⟨caller, callee, sites⟩ := c
    obtain ⟨caller', callee', sites'⟩ := c'
    obtain rfl : caller = caller' := hitem _ _ _ hc.caller hc'.caller
    obtain rfl : callee = callee' := hitem _ _ _ hc.callee hc'.callee
    obtain rfl : sites = sites' := hc.sites.symm.trans hc'.sites
    rfl

-- ============================================ trees

namespace CallGraph

variable {g g' : CallGraph} {d : Direction} {limit : Nat}

theorem links_sublist (hcalls : g.calls.Sublist g'.calls) (d : Direction) (i : Item) :
    (g.links d i).Sublist (g'.links d i) :=
  (hcalls.filter _).map _

/-- Below a node the greater graph shows what the smaller one shows, in the same order. -/
theorem shown_sublist (hcalls : g.calls.Sublist g'.calls) {depth : Nat} {n : Node} :
    (shown g.answer d limit depth n).Sublist (shown g'.answer d limit depth n) := by
  induction hleft : limit - depth generalizing depth n with
  | zero =>
      rw [shown_at_limit (by omega), shown_at_limit (by omega)]
  | succ left ih =>
      have hdepth : depth < limit := by omega
      rw [shown_of_ok hdepth (g.answer_question d n), shown_of_ok hdepth (g'.answer_question d n)]
      have hkids : (Node.sorted (n.children d (g.links d n.item))).Sublist
          (Node.sorted (n.children d (g'.links d n.item))) :=
        Node.sorted_sublist ((links_sublist hcalls d n.item).map _)
      -- first each child shows more, then there are more children
      refine List.Sublist.cons_cons _ (.trans ?_ (hkids.flatMap _))
      exact List.Sublist.flatMap_right _ fun c _ => ih (by omega)

end CallGraph

/-- Growing disturbs nothing that was shown. If a fixture and one that it grows to both load, the
rows of the first are among the rows of the second, in the same order: depth, identity, label,
what is read out and call sites of each are what they were. -/
theorem rows_sublist_of_grows {σ : Type} {f f' : Fixture} (h : f.Grows f') {g g' : CallGraph}
    (hf : f.graph = .ok g) (hf' : f'.graph = .ok g') (d : Direction) (limit : Nat) (s : σ) :
    ∃ rows rows', (g.provider.rows d limit s).result = .ok rows
      ∧ (g'.provider.rows d limit s).result = .ok rows' ∧ rows.Sublist rows' := by
  obtain ⟨hroots, hcalls⟩ := h.graphs (Fixture.graph_eq_ok_iff.1 hf) (Fixture.graph_eq_ok_iff.1 hf')
  refine ⟨_, _, g.rows_eq d limit s, g'.rows_eq d limit s, ?_⟩
  have hsorted := Node.sorted_sublist (hroots.map Node.root)
  refine .trans ?_ (hsorted.flatMap _)
  exact List.Sublist.flatMap_right _ fun n _ => CallGraph.shown_sublist hcalls

-- ============================================ a program that grows

namespace Sample

/-- A function that calls another, by keys. -/
def keyed : Fixture where
  items := [("main", function "main" 0), ("scan", function "scan" 2)]
  roots := ["main"]
  calls := [⟨"main", "scan", [⟨⟨0, 5⟩, ⟨0, 9⟩⟩]⟩]

/-- Later there is a function in between, and the one called calls back. -/
def keyedLater : Fixture where
  items := [("main", function "main" 0), ("peek", function "peek" 1), ("scan", function "scan" 2)]
  roots := ["scan", "main"]
  calls := [⟨"main", "peek", []⟩, ⟨"main", "scan", [⟨⟨0, 5⟩, ⟨0, 9⟩⟩]⟩, ⟨"scan", "main", []⟩]

theorem keyed_grows : keyed.Grows keyedLater := by
  refine Fixture.grows_of_sublist (by decide) ?_ ?_ ?_
  · exact .cons_cons _ (.cons _ (.refl _))
  · exact .cons _ (.refl _)
  · exact .cons _ (.cons_cons _ (List.nil_sublist _))

end Sample

/-- What the program shows at first is part of what it shows later, cycles and all. -/
theorem rows_of_sample_grown :
    Sample.keyed.Grows Sample.keyedLater
      ∧ ∃ g g' rows rows', Sample.keyed.graph = .ok g ∧ Sample.keyedLater.graph = .ok g'
        ∧ (g.provider.rows .outgoing 4 ()).result = .ok rows
        ∧ (g'.provider.rows .outgoing 4 ()).result = .ok rows' ∧ rows.Sublist rows' := by
  have hf : Sample.keyed.graph = .ok ⟨_, _⟩ := rfl
  have hf' : Sample.keyedLater.graph = .ok ⟨_, _⟩ := rfl
  obtain ⟨rows, rows', h⟩ := rows_sublist_of_grows Sample.keyed_grows hf hf' .outgoing 4 ()
  exact ⟨Sample.keyed_grows, _, _, rows, rows', hf, hf', h⟩

end CallExplorer
