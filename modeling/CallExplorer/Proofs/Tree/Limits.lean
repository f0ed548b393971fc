/-
Listings to different limits.

A listing to a lower limit puts fewer questions and shows fewer rows in between. Of a provider
without memory it shows nothing else: the rows of the lower limit are those of the higher one that
lie no deeper (`Listed.lower`). And where a listing shows nothing at its limit, there is nothing
below, so it is the listing to every higher limit as well (`Listed.raise`).

Both are about derivations. What carries them over to listings is that a provider without memory
cannot but follow a derivation whose answers are its own (`rows_of_listed`).

# What this closes

`rows_of_limits`, for any two limits one of which is no lower than the other. A hierarchy without
cycles has a height, so it can be listed to any limit.
-/
import Mathlib.Data.List.Permutation
import CallExplorer.Proofs.Tree.Complete
import CallExplorer.Proofs.Tree.SiblingOrder

namespace CallExplorer

open Provider (question)

variable {σ : Type} {p : Provider σ} {answer : Query → Except Failure (List Link)} {d : Direction}
  {limit limit' : Nat} {siblings shown : List Node} {asked : List Exchange} {s t : σ}

-- ============================================ one derivation from another

/-- A listing to a lower limit shows what lies no deeper, and puts no other questions. -/
theorem Listed.lower (h : Listed d limit' siblings shown asked) (hle : limit ≤ limit')
    (hlevel : ∀ n ∈ siblings, n.depth ≤ limit) :
    ∃ fewer, fewer ⊆ asked ∧ Listed d limit siblings (shown.filter (·.depth ≤ limit)) fewer := by
  induction h with
  | nil => exact ⟨[], List.nil_subset _, .nil⟩
  | @leaf n rest behind asked hdepth hbehind ih =>
      rw [List.forall_mem_cons] at hlevel
      obtain ⟨fewer, hfewer, hlisted⟩ := ih hlevel.2
      refine ⟨fewer, hfewer, ?_⟩
      rw [List.filter_cons_of_pos (by simpa using hlevel.1)]
      exact .leaf (by omega) hlisted
  | @inner n links rest below behind asked askedBehind hdepth hbelow hbehind ihBelow ihBehind =>
      rw [List.forall_mem_cons] at hlevel
      obtain ⟨fewerBehind, hfewerBehind, hlistedBehind⟩ := ihBehind hlevel.2
      rw [List.filter_cons_of_pos (by simpa using hlevel.1), List.filter_append]
      rcases Nat.lt_or_ge n.depth limit with hinner | hleaf
      · have hkids : ∀ c ∈ Node.sorted (n.children d links), c.depth ≤ limit := by
          intro c hc
          have := Node.depth_of_mem_kids hc
          omega
        obtain ⟨fewer, hfewer, hlisted⟩ := ihBelow hkids
        refine ⟨_, ?_, .inner hinner hlisted hlistedBehind⟩
        exact List.cons_subset_cons _
          (List.append_subset.2 ⟨List.subset_append_of_subset_left _ hfewer,
            List.subset_append_of_subset_right _ hfewerBehind⟩)
      · -- the node lies at the lower limit, so all that is below it is left out
        have hnone : below.filter (·.depth ≤ limit) = [] := by
          refine List.filter_eq_nil_iff.2 fun m hm => ?_
          have := hbelow.lt_depth m hm
          simp only [decide_eq_true_eq]
          omega
        rw [hnone, List.nil_append]
        refine ⟨fewerBehind, ?_, .leaf hleaf hlistedBehind⟩
        exact List.subset_cons_of_subset _ (List.subset_append_of_subset_right _ hfewerBehind)

/-- With nothing at the limit, the limit may as well be higher. -/
theorem Listed.raise (h : Listed d limit siblings shown asked) (hle : limit ≤ limit')
    (hlevel : ∀ n ∈ siblings, n.depth ≤ limit) (hnone : ∀ n ∈ shown, n.depth ≠ limit) :
    Listed d limit' siblings shown asked := by
  induction h with
  | nil => exact .nil
  | @leaf n rest behind asked hdepth hbehind ih =>
      rw [List.forall_mem_cons] at hlevel hnone
      exact absurd (Nat.le_antisymm hlevel.1 hdepth) hnone.1
  | @inner n links rest below behind asked askedBehind hdepth hbelow hbehind ihBelow ihBehind =>
      rw [List.forall_mem_cons] at hlevel hnone
      rw [List.forall_mem_append] at hnone
      have hkids : ∀ c ∈ Node.sorted (n.children d links), c.depth ≤ limit := by
        intro c hc
        have := Node.depth_of_mem_kids hc
        omega
      exact .inner (by omega) (ihBelow hkids hnone.2.1) (ihBehind hlevel.2 hnone.2.2)

-- ============================================ from derivations to listings

/-- What is received is what the provider answers. -/
def Truthful (answer : Query → Except Failure (List Link)) (asked : List Exchange) : Prop :=
  ∀ x ∈ asked, x.answer = answer x.query

theorem truthful_exchanges (hp : p.Answers answer) (qs : List Query) (s : σ) :
    Truthful answer (p.exchanges qs s) := by
  induction qs generalizing s with
  | nil =>
      intro x hx
      cases hx
  | cons q qs ih => exact List.forall_mem_cons.2 ⟨hp q s, ih _⟩

theorem truthful_unfolding (hp : p.Answers answer) (d : Direction) (limit : Nat) (s : σ) :
    Truthful answer (p.unfolding d limit s).exchanges := by
  rw [(p.puts_unfolding d limit s).exchanges]
  exact truthful_exchanges hp _ s

/-- A provider without memory gives the answers of a derivation from any state. -/
theorem exchanges_of_truthful (hp : p.Answers answer) (hasked : Truthful answer asked) (s : σ) :
    p.exchanges (asked.map (·.query)) s = asked := by
  induction asked generalizing s with
  | nil => rfl
  | cons x asked ih =>
      rw [Truthful, List.forall_mem_cons] at hasked
      have hfirst : (⟨x.query, (p.resolve x.query s).result⟩ : Exchange) = x :=
        congrArg (Exchange.mk x.query) ((hp x.query s).trans hasked.1.symm)
      exact congrArg₂ List.cons hfirst (ih hasked.2 _)

theorem rows_of_listed (hp : p.Answers answer)
    (h : Listed d limit (Node.sorted (p.roots.map .root)) shown asked)
    (hasked : Truthful answer asked) (s : σ) :
    (p.rows d limit s).result = .ok (shown.map (Row.ofNode d)) := by
  rw [(p.rows_eq d limit s).1]
  exact Provider.allRows_iff.1 ⟨shown, asked, h, exchanges_of_truthful hp hasked s, rfl⟩

-- ============================================ hierarchies that have a height

/-- Every link leads one rank down at least. -/
def Descends (answer : Query → Except Failure (List Link)) (d : Direction) (rank : Item → Nat) :
    Prop :=
  ∀ n links, answer (question d n) = .ok links → ∀ l ∈ links, rank l.item < rank n.item

/-- Where every link leads down, nothing lies as deep as the ranks of the roots are high. -/
theorem Listed.depth_lt {rank : Item → Nat} {roots : List Item}
    (h : Listed d limit (Node.sorted (roots.map .root)) shown asked)
    (hasked : Truthful answer asked) (hrank : Descends answer d rank) {height : Nat}
    (hroots : ∀ i ∈ roots, rank i < height) : ∀ n ∈ shown, n.depth < height := by
  have hbound : ∀ n ∈ shown, rank n.item + n.depth < height := by
    refine h.all_answered (fun n c links hn _ hmem hc => ?_) fun n hn => ?_
    · have hdepth := Node.depth_of_mem_children hc
      obtain ⟨l, hl, rfl⟩ := List.mem_map.1 hc
      have hlower : rank l.item < rank n.item := hrank n links (hasked _ hmem).symm l hl
      have hitem : (Node.child l.item (l.locations d n.item) n).item = l.item := rfl
      rw [hitem]
      omega
    · obtain ⟨i, hi, rfl⟩ := Node.exists_root hn
      exact hroots i hi
  intro n hn
  have := hbound n hn
  omega

-- ============================================ two limits

/-- Two listings of a provider without memory, in one direction and from any two states, one of
them to a limit no higher than that of the other. If the one to the higher limit succeeds, so does
the other, and its rows are the rows that lie no deeper than its limit, in the same order. If the
one to the lower limit succeeds without a row at the limit, the other succeeds with the same rows.
So it does wherever the calls have no cycles, that is, when every link leads down in some rank, and
the limit is above all roots. -/
theorem rows_of_limits (hp : p.Answers answer) (d : Direction) (hle : limit ≤ limit') (s t : σ) :
    (∀ rows, (p.rows d limit' s).result = .ok rows →
        (p.rows d limit t).result = .ok (rows.filter (·.depth ≤ limit)))
      ∧ (∀ rows, (p.rows d limit s).result = .ok rows → (∀ r ∈ rows, r.depth ≠ limit) →
        (p.rows d limit' t).result = .ok rows)
      ∧ ∀ rank, Descends answer d rank → (∀ i ∈ p.roots, rank i < limit) →
        ∀ rows, (p.rows d limit s).result = .ok rows → (p.rows d limit' t).result = .ok rows := by
  have hroots : ∀ {l}, ∀ n ∈ Node.sorted (p.roots.map .root), n.depth ≤ l := by
    intro l n hn
    rw [Node.depth_of_mem_roots hn]
    exact Nat.zero_le l
  have hraise : ∀ {shown}, Listed d limit (Node.sorted (p.roots.map .root)) shown
      (p.unfolding d limit s).exchanges → (∀ n ∈ shown, n.depth ≠ limit) →
      (p.rows d limit' t).result = .ok (shown.map (Row.ofNode d)) := fun hlisted hnone =>
    rows_of_listed hp (hlisted.raise hle hroots hnone) (truthful_unfolding hp d limit s) t
  refine ⟨fun rows h => ?_, fun rows h hnone => ?_, fun rank hrank hheight rows h => ?_⟩
  · rw [(p.rows_eq d limit' s).1] at h
    obtain ⟨shown, hlisted, rfl⟩ := listed_unfolding h
    obtain ⟨fewer, hfewer, hlower⟩ := hlisted.lower hle hroots
    have hasked : Truthful answer fewer := fun x hx =>
      truthful_unfolding hp d limit' s x (hfewer hx)
    rw [List.filter_map]
    exact rows_of_listed hp hlower hasked t
  · rw [(p.rows_eq d limit s).1] at h
    obtain ⟨shown, hlisted, rfl⟩ := listed_unfolding h
    exact hraise hlisted fun n hn => hnone (Row.ofNode d n) (List.mem_map_of_mem hn)
  · rw [(p.rows_eq d limit s).1] at h
    obtain ⟨shown, hlisted, rfl⟩ := listed_unfolding h
    have hlower := hlisted.depth_lt (truthful_unfolding hp d limit s) hrank hheight
    exact hraise hlisted fun n hn => Nat.ne_of_lt (hlower n hn)

/-- A program without recursion is as deep as its calls go, whatever the limit. -/
theorem rows_of_sample_limits : ∃ rows,
    Sample.program.provider.Answers (σ := Unit) Sample.program.answer
      ∧ 2 ≤ 18446744073709551615
      ∧ (Sample.program.provider.rows .outgoing 2 ()).result = .ok rows
      ∧ (∀ r ∈ rows, r.depth ≠ 2)
      ∧ (Sample.program.provider.rows .outgoing 18446744073709551615 ()).result = .ok rows
      ∧ (Sample.program.provider.rows .outgoing 2 ()).result
        = .ok (rows.filter (·.depth ≤ 2)) := by
  have hdepths : (Sample.program.provider.rows .outgoing 2 ()).result.map (·.map (·.depth))
      = .ok [0, 1, 1, 0] := by
    cbv
  obtain ⟨rows, hrows, hmap⟩ := ok_of_map hdepths
  have hnone : ∀ r ∈ rows, r.depth ≠ 2 := by
    intro r hr
    have hdepth : r.depth ∈ [0, 1, 1, 0] := hmap ▸ List.mem_map_of_mem hr
    have hall : ∀ k ∈ [0, 1, 1, 0], k ≠ 2 := by decide
    exact hall r.depth hdepth
  have hle : 2 ≤ 18446744073709551615 := by decide
  obtain ⟨hlower, hraise, -⟩ :=
    rows_of_limits Sample.program.provider_answers .outgoing hle () ()
  have hhigh := hraise rows hrows hnone
  exact ⟨rows, Sample.program.provider_answers, hle, hrows, hnone, hhigh, hlower rows hhigh⟩

end CallExplorer
