/-
Callers and callees.

The two directions look at the same calls from opposite ends. A call that leads from one symbol to
another in the one direction leads back in the other, with the same sites in the same document,
whichever end was asked about. So chains of calls can be read backwards (`leads_reverse`), and
there are as many ways from one symbol to the other as there are back.

In a tree with one root the rows of a symbol, at one depth, are the ways of that length to the
symbol. Which symbol a row stands for can be seen from its identity: the level of the symbol
comes first, and nothing else can look like it (`standsFor_ofNode`).

# What this closes

`converse_views`: for any calls and any two items, the children that stand for the one below the
other and those the other way round have the same sites, call by call; and each of the two stands
as often at some depth of the other's tree as the other does in its own.
-/
import CallExplorer.Proofs.Graph.Walks
import CallExplorer.Proofs.Tree.Identity

namespace CallExplorer

open Call (Entry Leads goal)

-- ============================================ symbols

theorem Item.sameSymbol_iff {a b : Item} : a.sameSymbol b ↔ a.uri = b.uri ∧ a.range = b.range := by
  rw [sameSymbol, Bool.and_eq_true, decide_eq_true_eq, decide_eq_true_eq]

theorem Item.sameSymbol_comm (a b : Item) : a.sameSymbol b = b.sameSymbol a := by
  rw [Bool.eq_iff_iff, sameSymbol_iff, sameSymbol_iff, eq_comm, eq_comm (a := a.range)]

/-- Items are of one symbol if they are at one place. -/
theorem Item.sameSymbol_iff_place {a b : Item} :
    a.sameSymbol b ↔ Place.ofItem a = Place.ofItem b := by
  rw [sameSymbol_iff, Place.ofItem, Place.ofItem, Place.mk.injEq]
  exact and_congr_left fun _ => ⟨congrArg Uri.text, Uri.ext⟩

-- ============================================ the symbol of a row

/-- Whether a row of a tree that looks in a direction stands for the symbol of an item: the
identity is the level of the symbol, or that level is followed by others. -/
def Row.standsFor (d : Direction) (i : Item) (r : Row) : Bool :=
  r.id = i.mark d || (i.mark d ++ "/").toList.isPrefixOf r.id.toList

/-- Rows of nodes stand for the symbols of their items. -/
theorem standsFor_ofNode (d : Direction) (n : Node) (i : Item) :
    (Row.ofNode d n).standsFor d i = n.item.sameSymbol i := by
  have hslash : Text.bytes "/" = [0x2F] := by decide
  have hmark : i.mark d = (Place.ofItem i).mark d := rfl
  obtain ⟨p, ps, hplaces⟩ := List.exists_cons_of_ne_nil n.places_ne_nil
  have hplace : p = Place.ofItem n.item := by
    cases n <;> exact (List.cons.inj hplaces).1.symm
  have hid : n.identity d = "/".intercalate ((p :: ps).map (Place.mark d)) := by
    rw [Node.identity_eq, hplaces]
  have hbytes : Text.bytes (n.identity d) = Text.bytes (p.mark d) ++ Place.others d ps := by
    rw [hid, Place.bytes_levels]
  rw [Bool.eq_iff_iff, Item.sameSymbol_iff_place, ← hplace]
  simp only [Row.standsFor, Row.ofNode, hmark, Bool.or_eq_true, decide_eq_true_eq,
    List.isPrefixOf_iff_prefix]
  constructor
  · rintro (hwhole | ⟨rest, hrest⟩)
    · rw [hwhole, ← List.append_nil (Text.bytes _)] at hbytes
      exact (Place.mark_cancel Doc.noDigit_nil (Place.noDigit_others d ps) hbytes).2.1.symm
    · -- a slash ends the level just as well
      have htext : n.identity d = (Place.ofItem i).mark d ++ "/" ++ String.ofList rest := by
        rw [← String.toList_inj, ← hrest]
        simp only [String.toList_append, String.toList_ofList]
      rw [htext, Text.bytes_append, Text.bytes_append, hslash, List.append_assoc] at hbytes
      have hdigit : Doc.NoDigit ([0x2F] ++ Text.bytes (String.ofList rest)) :=
        Doc.noDigit_cons (by decide)
      exact (Place.mark_cancel hdigit (Place.noDigit_others d ps) hbytes).2.1.symm
  · intro hp
    rw [hid, ← hp]
    cases ps with
    | nil => exact .inl (by rw [List.map_singleton, String.intercalate_singleton])
    | cons q rest =>
        refine .inr ?_
        rw [List.map_cons, List.map_cons, String.intercalate_cons_cons]
        simp only [String.toList_append]
        exact List.prefix_append _ _

-- ============================================ backwards

namespace Call

theorem near_flip (d : Direction) (c : Call) : c.near d.flip = c.far d := by cases d <;> rfl

theorem far_flip (d : Direction) (c : Call) : c.far d.flip = c.near d := by cases d <;> rfl

/-- Calls that lead from one item to the symbol of another lead back, read backwards in the other
direction. -/
theorem leads_reverse {calls : List Call} {d : Direction} {x y : Item} (cs : List (Entry calls)) :
    Leads calls d x cs ∧ (goal calls d x cs).sameSymbol y
      ↔ Leads calls d.flip y cs.reverse ∧ (goal calls d.flip y cs.reverse).sameSymbol x := by
  induction cs generalizing x with
  | nil => simp [Leads, goal, Item.sameSymbol_comm x y]
  | cons c cs ih =>
      -- the first call there is the last one back
      rw [List.reverse_cons, leads_concat, goal_concat, near_flip, far_flip, Leads, goal,
        and_assoc, ih, Item.sameSymbol_comm (goal calls d.flip y cs.reverse)]
      exact and_comm

end Call

namespace CallGraph

variable {calls : List Call} {d : Direction}

/-- There are as many ways from one item to another as there are back. -/
theorem countP_below_flip {k limit limit' : Nat} (hk : k ≤ limit) (hk' : k ≤ limit') (x y : Item) :
    (below calls d limit x).countP (fun cs =>
        cs.length = k && (goal calls d x cs).sameSymbol y)
      = (below calls d.flip limit' y).countP (fun cs =>
        cs.length = k && (goal calls d.flip y cs).sameSymbol x) := by
  have hperm : (((below calls d limit x).filter fun cs =>
        cs.length = k && (goal calls d x cs).sameSymbol y).map List.reverse).Perm
      ((below calls d.flip limit' y).filter fun cs =>
        cs.length = k && (goal calls d.flip y cs).sameSymbol x) := by
    refine (List.perm_ext_iff_of_nodup ?_ ?_).2 fun cs => ?_
    · exact ((nodup_below limit x).filter _).map List.reverse_injective
    · exact (nodup_below limit' y).filter _
    have hback := Call.leads_reverse (d := d) (x := x) (y := y) cs.reverse
    rw [List.reverse_reverse] at hback
    rw [List.mem_map_of_involutive List.reverse_involutive]
    simp only [List.mem_filter, mem_below, Bool.and_eq_true, decide_eq_true_eq,
      List.length_reverse]
    constructor
    · rintro ⟨⟨hleads, -⟩, hlength, hgoal⟩
      obtain ⟨hleads, hgoal⟩ := hback.1 ⟨hleads, hgoal⟩
      exact ⟨⟨hleads, by omega⟩, hlength, hgoal⟩
    · rintro ⟨⟨hleads, -⟩, hlength, hgoal⟩
      obtain ⟨hleads, hgoal⟩ := hback.2 ⟨hleads, hgoal⟩
      exact ⟨⟨hleads, by omega⟩, hlength, hgoal⟩
  rw [List.countP_eq_length_filter, List.countP_eq_length_filter, ← hperm.length_eq,
    List.length_map]

-- ============================================ trees of one root

/-- The rows of a tree with one root are the ways on from it. -/
theorem rows_of_root {σ : Type} (calls : List Call) (d : Direction) (limit : Nat) (x : Item)
    (s : σ) :
    ((⟨[x], calls⟩ : CallGraph).provider.rows d limit s).result
      = .ok ((below calls d limit x).map fun cs =>
          Row.ofNode d ((Node.root x).along calls d cs)) := by
  have hshown := (⟨[x], calls⟩ : CallGraph).shown_eq_below (d := d) limit (.root x)
  rw [rows_eq, List.map_singleton, Node.sorted, Node.sortedOn, List.mergeSort_singleton,
    List.flatMap_singleton]
  exact congrArg _ hshown

/-- The rows of a symbol at some depth are the ways of that length to it. -/
theorem countP_rows (limit k : Nat) (x y : Item) :
    ((below calls d limit x).map fun cs =>
        Row.ofNode d ((Node.root x).along calls d cs)).countP
          (fun r => r.depth = k && r.standsFor d y)
      = (below calls d limit x).countP (fun cs =>
        cs.length = k && (goal calls d x cs).sameSymbol y) := by
  rw [List.countP_map]
  refine List.countP_congr fun cs _ => ?_
  have hdepth : (Row.ofNode d ((Node.root x).along calls d cs)).depth = cs.length := by
    rw [Row.ofNode, Node.depth_along, Node.depth_root, Nat.zero_add]
  rw [Function.comp_apply, hdepth, standsFor_ofNode, Node.item_along]
  rfl

/-- The children that stand for the symbol of an item have the sites of the calls between the
two, call by call. -/
theorem locations_children (g : CallGraph) (n : Node) (i : Item) :
    ((n.children d (g.links d n.item)).filter (·.item.sameSymbol i)).map Node.locations
      = (g.calls.filter fun c => (c.near d).sameSymbol n.item && (c.far d).sameSymbol i).map
          (some ·.places) := by
  rw [children_links, List.filter_map, List.filter_filter, List.map_map]
  have hfilter : (g.calls.filter fun c =>
        ((·.item.sameSymbol i) ∘ n.via d) c && (c.near d).sameSymbol n.item)
      = g.calls.filter fun c => (c.near d).sameSymbol n.item && (c.far d).sameSymbol i := by
    refine List.filter_congr fun c _ => ?_
    exact Bool.and_comm _ _
  rw [hfilter]
  refine List.map_congr_left fun c hc => ?_
  exact Node.locations_via (Bool.and_eq_true_iff.1 (List.mem_filter.1 hc).2).1

end CallGraph

/-- The two directions are converse views of the calls. Expanding a node of one item towards
callees and one of another towards callers finds each in the other's children with the same
sites, call by call. And each of the two stands as often at some depth of the tree below the
other, towards callees and towards callers, as long as the trees reach that deep. -/
theorem converse_views {σ : Type} (calls : List Call) (x y : Item) (s : σ) :
    (∀ (roots : List Item) (m n : Node), m.item = x → n.item = y →
      let g : CallGraph := ⟨roots, calls⟩
      ∃ callees callers,
        (g.provider.explorer.children m ⟨.outgoing, s⟩).result = .ok callees
          ∧ (g.provider.explorer.children n ⟨.incoming, s⟩).result = .ok callers
          ∧ (callees.filter (·.item.sameSymbol y)).map Node.locations
            = (callers.filter (·.item.sameSymbol x)).map Node.locations)
      ∧ ∀ k limit limit' : Nat, k ≤ limit → k ≤ limit' → ∃ rows rows',
        ((⟨[x], calls⟩ : CallGraph).provider.rows .outgoing limit s).result = .ok rows
          ∧ ((⟨[y], calls⟩ : CallGraph).provider.rows .incoming limit' s).result = .ok rows'
          ∧ rows.countP (fun r => r.depth = k && r.standsFor .outgoing y)
            = rows'.countP (fun r => r.depth = k && r.standsFor .incoming x) := by
  constructor
  · rintro roots m n rfl rfl g
    refine ⟨_, _, rfl, rfl, ?_⟩
    rw [g.locations_children m n.item, g.locations_children n m.item]
    refine congrArg _ (List.filter_congr fun c _ => ?_)
    exact Bool.and_comm _ _
  · intro k limit limit' hk hk'
    refine ⟨_, _, CallGraph.rows_of_root calls .outgoing limit x s,
      CallGraph.rows_of_root calls .incoming limit' y s, ?_⟩
    rw [CallGraph.countP_rows, CallGraph.countP_rows]
    exact CallGraph.countP_below_flip hk hk' x y

-- ============================================ two functions that call each other

/-- Two functions that call each other, and one of them itself. -/
def Sample.mutual : List Call :=
  [⟨function "main" 0, function "scan" 1, [⟨⟨0, 5⟩, ⟨0, 9⟩⟩]⟩,
    ⟨function "scan" 1, function "main" 0, [⟨⟨1, 2⟩, ⟨1, 6⟩⟩]⟩,
    ⟨function "main" 0, function "main" 0, []⟩]

/-- Two levels below the other, both trees show each of them as often. -/
theorem converse_views_of_mutual :
    let x := Sample.function "main" 0
    let y := Sample.function "scan" 1
    let g : CallGraph := ⟨[], Sample.mutual⟩
    (∃ callees callers,
      (g.provider.explorer.children (.root x) ⟨.outgoing, ()⟩).result = .ok callees
        ∧ (g.provider.explorer.children (.root y) ⟨.incoming, ()⟩).result = .ok callers
        ∧ (callees.filter (·.item.sameSymbol y)).map Node.locations
          = (callers.filter (·.item.sameSymbol x)).map Node.locations)
      ∧ 2 ≤ 2 ∧ 2 ≤ 3 ∧ ∃ rows rows',
        ((⟨[x], Sample.mutual⟩ : CallGraph).provider.rows .outgoing 2 ()).result = .ok rows
          ∧ ((⟨[y], Sample.mutual⟩ : CallGraph).provider.rows .incoming 3 ()).result = .ok rows'
          ∧ rows.countP (fun r => r.depth = 2 && r.standsFor .outgoing y)
            = rows'.countP (fun r => r.depth = 2 && r.standsFor .incoming x) := by
  intro x y g
  obtain ⟨hsites, hrows⟩ := converse_views Sample.mutual x y ()
  exact ⟨hsites [] (.root x) (.root y) rfl rfl, by decide, by decide,
    hrows 2 2 3 (by decide) (by decide)⟩

end CallExplorer
