/-
Fixtures and their keys.

A fixture names items by keys and looks them up one after the other: the roots, and then call by
call the caller and the callee. The first key that there is no item under is all that is said of a
fixture that does not load (`Reports`). What looks up some keys and then others reports the first
unknown key of both in a row, so the loops over roots and calls need no more than an induction each.

A fixture that loads has had an item under every key. From then on the keys are gone, and the items
are all that can come of the graph. Answers name the ends of calls. Nodes are made of roots and of
what was answered, and stand below nodes made so before. So the invariant is about a node with all
its ancestors (`Node.Within`), and it is kept by every request of a host and by every step of a
listing, in a session that is turned or not.

# What this closes

`graph_of_keys`, for every fixture.
-/
import CallExplorer.Proofs.Graph.Growth
import CallExplorer.Proofs.Tree.Turning

namespace CallExplorer

-- ============================================ looking up

/-- The keys of a call, in the order of looking them up. -/
def KeyedCall.keys (k : KeyedCall) : List String := [k.caller, k.callee]

namespace Fixture

variable {f f' : Fixture} {key : String} {keys keys' : List String} {α β : Type}

/-- The keys that a fixture names, in the order of looking them up. -/
def named (f : Fixture) : List String := f.roots ++ f.calls.flatMap KeyedCall.keys

/-- There is an item under a key. -/
def Knows (f : Fixture) (key : String) : Prop := key ∈ f.items.map (·.1)

instance (f : Fixture) : DecidablePred f.Knows :=
  fun key => inferInstanceAs (Decidable (key ∈ f.items.map (·.1)))

/-- There is a key that an item is found under. -/
def Holds (f : Fixture) (i : Item) : Prop := ∃ key, f.items.lookup key = some i

/-- The first of some keys that there is no item under. -/
def firstUnknown (f : Fixture) (keys : List String) : Option String :=
  keys.find? fun key => ¬ f.Knows key

theorem item_eq (f : Fixture) (key : String) :
    f.item key = (f.items.lookup key).elim (.error (.unknownItem key)) .ok := by
  obtain ⟨items, roots, calls⟩ := f
  rw [item]
  induction items with
  | nil => rfl
  | cons entry rest ih =>
      rw [List.find?_cons, List.lookup_cons, BEq.comm]
      cases key == entry.1 with
      | true => rfl
      | false => exact ih

theorem item_eq_ok_iff_lookup {i : Item} :
    f.item key = .ok i ↔ f.items.lookup key = some i := by
  rw [item_eq]
  cases f.items.lookup key with
  | none => simp
  | some j => simp

theorem knows_iff_isSome : f.Knows key ↔ (f.items.lookup key).isSome := by
  rw [List.lookup_isSome_iff, Knows, List.mem_map]
  refine exists_congr fun entry => ?_
  rw [beq_iff_eq, eq_comm]

theorem holds_of_item {i : Item} (h : f.item key = .ok i) : f.Holds i :=
  ⟨key, item_eq_ok_iff_lookup.1 h⟩

-- ============================================ the first unknown key

/-- Something that looks up keys comes to nothing if one of them is unknown, and then it says which
one was the first. -/
def Reports (f : Fixture) (keys : List String) (x : Except FixtureError α) : Prop :=
  ∀ e, x = .error e ↔ (f.firstUnknown keys).map .unknownItem = some e

theorem firstUnknown_append :
    f.firstUnknown (keys ++ keys') = (f.firstUnknown keys).or (f.firstUnknown keys') :=
  List.find?_append

theorem firstUnknown_eq_none_iff : f.firstUnknown keys = none ↔ ∀ key ∈ keys, f.Knows key := by
  simp [firstUnknown]

theorem reports_ok (a : α) : f.Reports [] (.ok a) := by
  intro e
  simp [firstUnknown]

theorem reports_item (f : Fixture) (key : String) : f.Reports [key] (f.item key) := by
  intro e
  rw [item_eq, firstUnknown]
  cases hkey : f.items.lookup key with
  | none => simp [knows_iff_isSome, hkey]
  | some i => simp [knows_iff_isSome, hkey]

theorem Reports.firstUnknown_eq_none {a : α} (h : f.Reports keys (.ok a)) :
    f.firstUnknown keys = none := by
  cases hkey : f.firstUnknown keys with
  | none => rfl
  | some key => cases (h (.unknownItem key)).2 (by rw [hkey]; rfl)

/-- It comes to something if all keys are known, and only then. -/
theorem Reports.exists_ok_iff {x : Except FixtureError α} (hx : f.Reports keys x) :
    (∃ a, x = .ok a) ↔ ∀ key ∈ keys, f.Knows key := by
  rw [← firstUnknown_eq_none_iff]
  constructor
  · rintro ⟨a, rfl⟩
    exact hx.firstUnknown_eq_none
  · intro hnone
    cases hresult : x with
    | ok a => exact ⟨a, rfl⟩
    | error e =>
        have hsome := (hx e).1 hresult
        rw [hnone] at hsome
        cases hsome

/-- First some keys are looked up and then others. -/
theorem Reports.bind {x : Except FixtureError α} {g : α → Except FixtureError β}
    (hx : f.Reports keys x) (hg : ∀ a, f.Reports keys' (g a)) :
    f.Reports (keys ++ keys') (x >>= g) := by
  intro e
  rw [firstUnknown_append]
  cases hresult : x with
  | error e' =>
      obtain ⟨key, hkey, rfl⟩ := Option.map_eq_some_iff.1 ((hx e').1 hresult)
      rw [hkey]
      simp [Bind.bind, Except.bind]
  | ok a =>
      rw [hresult] at hx
      rw [hx.firstUnknown_eq_none]
      exact hg a e

/-- What is done with the outcome does not matter. -/
theorem Reports.then_ok {x : Except FixtureError α} (hx : f.Reports keys x) (g : α → β) :
    f.Reports keys (do let a ← x; .ok (g a)) := by
  have hthen := hx.bind fun a => reports_ok (g a)
  rwa [List.append_nil] at hthen

theorem reports_itemsOf (f : Fixture) (keys : List String) : f.Reports keys (f.itemsOf keys) := by
  induction keys with
  | nil => exact reports_ok []
  | cons key rest ih => exact (f.reports_item key).bind fun i => ih.then_ok (i :: ·)

theorem reports_callsOf (f : Fixture) (ks : List KeyedCall) :
    f.Reports (ks.flatMap KeyedCall.keys) (f.callsOf ks) := by
  induction ks with
  | nil => exact reports_ok []
  | cons k rest ih =>
      refine (f.reports_item k.caller).bind fun caller => ?_
      refine (f.reports_item k.callee).bind fun callee => ?_
      exact ih.then_ok (⟨caller, callee, k.sites⟩ :: ·)

/-- A fixture that does not load says which key is the first unknown one. -/
theorem reports_graph (f : Fixture) : f.Reports f.named f.graph :=
  (f.reports_itemsOf f.roots).bind fun roots =>
    (f.reports_callsOf f.calls).then_ok (CallGraph.mk roots)

theorem graph_eq_error_iff {e : FixtureError} : f.graph = .error e
    ↔ ∃ before key behind, f.named = before ++ key :: behind ∧ (∀ k ∈ before, f.Knows k)
      ∧ ¬ f.Knows key ∧ e = .unknownItem key := by
  rw [f.reports_graph e, Option.map_eq_some_iff, firstUnknown]
  constructor
  · rintro ⟨key, hkey, rfl⟩
    obtain ⟨hunknown, before, behind, hnamed, hbefore⟩ := List.find?_eq_some_iff_append.1 hkey
    exact ⟨before, key, behind, hnamed, by simpa using hbefore, by simpa using hunknown, rfl⟩
  · rintro ⟨before, key, behind, hnamed, hbefore, hunknown, rfl⟩
    refine ⟨key, List.find?_eq_some_iff_append.2 ⟨by simpa using hunknown, ?_⟩, rfl⟩
    exact ⟨before, behind, hnamed, by simpa using hbefore⟩

-- ============================================ what is loaded

theorem itemsOf_congr (h : ∀ key ∈ keys, f'.item key = f.item key) :
    f'.itemsOf keys = f.itemsOf keys := by
  induction keys with
  | nil => rfl
  | cons key rest ih =>
      rw [List.forall_mem_cons] at h
      rw [itemsOf, itemsOf, h.1, ih h.2]

theorem callsOf_congr {ks : List KeyedCall}
    (h : ∀ key ∈ ks.flatMap KeyedCall.keys, f'.item key = f.item key) :
    f'.callsOf ks = f.callsOf ks := by
  induction ks with
  | nil => rfl
  | cons k rest ih =>
      rw [List.flatMap_cons, List.forall_mem_append, KeyedCall.keys, List.forall_mem_cons,
        List.forall_mem_singleton] at h
      rw [callsOf, callsOf, h.1.1, h.1.2, ih h.2]

/-- Only what is under the named keys matters. -/
theorem graph_of_lookup {items : List (String × Item)}
    (h : ∀ key ∈ f.named, items.lookup key = f.items.lookup key) :
    ({ f with items := items } : Fixture).graph = f.graph := by
  have hitem : ∀ key ∈ f.named, ({ f with items := items } : Fixture).item key = f.item key := by
    intro key hkey
    rw [item_eq, item_eq, h key hkey]
  rw [named, List.forall_mem_append] at hitem
  rw [graph, graph, itemsOf_congr hitem.1, callsOf_congr hitem.2]

end Fixture

-- ============================================ what a graph gives

/-- The node and all its ancestors show items with a property. -/
def Node.Within (T : Item → Prop) (n : Node) : Prop := ∀ a ∈ n.ancestors, T a.item

/-- A row of such a node. -/
def Row.Within (T : Item → Prop) (r : Row) : Prop := ∃ d n, r = .ofNode d n ∧ n.Within T

variable {T : Item → Prop}

theorem Node.within_root {i : Item} (h : T i) : (root i).Within T := by
  intro a ha
  rw [List.mem_singleton.1 ha]
  exact h

theorem Node.Within.child {parent : Node} (h : parent.Within T) {i : Item} (hi : T i)
    (locations : List Location) : (Node.child i locations parent).Within T :=
  List.forall_mem_cons.2 ⟨hi, h⟩

section Hosts

open Host

variable {σ : Type} {p : Provider σ} {h : Host σ}

/-- A request gains no other nodes. -/
theorem within_run (hroots : ∀ i ∈ p.roots, T i)
    (hanswers : ∀ q s links, (p.resolve q s).result = .ok links → ∀ l ∈ links, T l.item)
    (hheld : ∀ held ∈ h.nodes, held.node.Within T) (r : Host.Request) :
    ∀ held ∈ (r.run p h).state.nodes, held.node.Within T := by
  obtain ⟨gained, hnodes, hgained⟩ := nodes_run p r h
  rw [hnodes, List.forall_mem_append]
  refine ⟨hheld, fun held hnew => ?_⟩
  cases hgained held hnew with
  | root hrequest hi => exact Node.within_root (hroots _ hi)
  | child hrequest hparent hanswer hl =>
      exact (hheld _ (List.mem_of_getElem? hparent)).child (hanswers _ _ _ hanswer _ hl) _

theorem within_afterAll (hroots : ∀ i ∈ p.roots, T i)
    (hanswers : ∀ q s links, (p.resolve q s).result = .ok links → ∀ l ∈ links, T l.item)
    (hheld : ∀ held ∈ h.nodes, held.node.Within T) (rs : List Host.Request) :
    ∀ held ∈ (h.afterAll p rs).nodes, held.node.Within T := by
  induction rs generalizing h with
  | nil => exact hheld
  | cons r rs ih => exact ih (within_run hroots hanswers hheld r)

end Hosts

section Listings

variable {τ : Type} {e : Explorer τ} {limit : Nat} {t : τ} {pending : List Node}
  {shown : List (Showing τ)} {stop : Option Failure}
  (hanswers : ∀ d i t, ∃ links, (e.resolve d i t).result = .ok links ∧ ∀ l ∈ links, T l.item)
include hanswers

/-- Where no question fails no listing does, and a listing shows no other nodes. -/
theorem Unrolls.within (h : Unrolls e limit t pending shown stop)
    (hpending : ∀ n ∈ pending, n.Within T) : stop = none ∧ ∀ v ∈ shown, v.node.Within T := by
  induction h with
  | done => simp
  | @leaf t n rest behind stop hdepth hbehind ih =>
      rw [List.forall_mem_cons] at hpending ⊢
      obtain ⟨hstop, hrest⟩ := ih hpending.2
      exact ⟨hstop, hpending.1, hrest⟩
  | @stops t n rest f hdepth hanswer =>
      obtain ⟨links, hlinks, -⟩ := hanswers (e.direction t) n.item t
      cases hanswer.symm.trans hlinks
  | @inner t n links rest behind stop hdepth hanswer hbehind ih =>
      obtain ⟨links', hlinks, hall⟩ := hanswers (e.direction t) n.item t
      obtain rfl : links' = links := Except.ok.inj (hlinks.symm.trans hanswer)
      rw [List.forall_mem_cons] at hpending ⊢
      have hnext : ∀ m ∈ Node.sorted (n.children (e.direction t) links') ++ rest, m.Within T := by
        rw [List.forall_mem_append]
        refine ⟨fun c hc => ?_, hpending.2⟩
        obtain ⟨l, hl, rfl⟩ := List.mem_map.1 (Node.mem_sorted.1 hc)
        exact hpending.1.child (hall l hl) _
      obtain ⟨hstop, hrest⟩ := ih hnext
      exact ⟨hstop, hpending.1, hrest⟩

theorem Explorer.rows_within (hroots : ∀ i ∈ e.roots, T i) (limit : Nat) (t : τ) :
    ∃ rows, (e.expand limit t).result = .ok rows ∧ ∀ r ∈ rows, r.Within T := by
  obtain ⟨shown, stop, events, hunrolls, hlist, -⟩ :=
    unrolls_list e limit (Node.sorted e.rootNodes) t []
  have hpending : ∀ n ∈ Node.sorted e.rootNodes, n.Within T := by
    intro n hn
    obtain ⟨i, hi, rfl⟩ := List.mem_map.1 (Node.mem_sorted.1 hn)
    exact Node.within_root (hroots i hi)
  obtain ⟨rfl, hshown⟩ := hunrolls.within hanswers hpending
  obtain ⟨_, hexpand⟩ := Explorer.expand_eq hlist
  refine ⟨shown.map Showing.row, congrArg Outcome.result hexpand, ?_⟩
  rw [List.forall_mem_map]
  exact fun v hv => ⟨v.direction, v.node, rfl, hshown v hv⟩

end Listings

namespace CallGraph

/-- All that a graph ever gives are items with a property: the roots, what is answered to any
question whatever, what a host holds after any requests, and what the rows of a listing are made of,
also if the session is turned while answers are pending. -/
structure GivesOnly (g : CallGraph) (T : Item → Prop) : Prop where
  roots : ∀ i ∈ g.roots, T i
  answers : ∀ {σ : Type} q (s : σ) links, (g.provider.resolve q s).result = .ok links →
    ∀ l ∈ links, T l.item
  hosts : ∀ {σ : Type} d (s : σ) rs,
    ∀ held ∈ (Host.afterAll g.provider rs { session := ⟨d, s⟩ }).nodes, held.node.Within T
  listings : ∀ {σ : Type} d limit (s : σ), ∃ rows,
    (g.provider.rows d limit s).result = .ok rows ∧ ∀ r ∈ rows, r.Within T
  turned : ∀ {σ : Type} limit (session : Session σ) schedule, ∃ rows,
    (g.provider.turned.expand limit (session, schedule)).result = .ok rows ∧ ∀ r ∈ rows, r.Within T

variable {g : CallGraph}

/-- It is enough that the roots and the ends of all calls are of that kind. -/
theorem givesOnly (hroots : ∀ i ∈ g.roots, T i)
    (hcalls : ∀ c ∈ g.calls, T c.caller ∧ T c.callee) : g.GivesOnly T := by
  have hanswers : ∀ {σ : Type} q (s : σ) links, (g.provider.resolve q s).result = .ok links →
      ∀ l ∈ links, T l.item := by
    intro σ q s links h l hl
    rw [g.provider_answers q s, answer] at h
    split at h
    · cases h
    · injection h with h
      rw [← h] at hl
      exact of_mem_links hcalls hl
  have hlinks : ∀ d i, ∃ links,
      Except.ok (ε := Failure) (g.links d i) = .ok links ∧ ∀ l ∈ links, T l.item :=
    fun d i => ⟨g.links d i, rfl, fun l hl => of_mem_links hcalls hl⟩
  constructor
  case roots => exact hroots
  case answers => exact hanswers
  case hosts =>
    intro σ d s rs
    exact within_afterAll hroots hanswers (fun held hnone => (List.not_mem_nil hnone).elim) rs
  case listings =>
    intro σ d limit s
    exact Explorer.rows_within (fun d i t => hlinks d i) hroots limit (⟨d, s⟩ : Session σ)
  case turned =>
    intro σ limit session schedule
    exact Explorer.rows_within (fun d i t => hlinks d i) hroots limit (session, schedule)

end CallGraph

/-- What holds of the thing that each entry of a list stands for holds of all these things. -/
theorem forall_of_forall₂ {α β : Type} {P : β → Prop} {xs : List α} {ys : List β}
    (h : List.Forall₂ (fun _ y => P y) xs ys) : ∀ y ∈ ys, P y := by
  induction h with
  | nil => simp
  | cons hy _ ih => exact List.forall_mem_cons.2 ⟨hy, ih⟩

/-- A graph that was loaded gives items of its fixture. -/
theorem Fixture.Loads.givesOnly {f : Fixture} {g : CallGraph} (h : f.Loads g) :
    g.GivesOnly f.Holds := by
  refine CallGraph.givesOnly (forall_of_forall₂ (h.roots.imp fun _ _ => holds_of_item)) ?_
  exact forall_of_forall₂ (h.calls.imp fun _ _ hc =>
    ⟨holds_of_item hc.caller, holds_of_item hc.callee⟩)

/-- A fixture loads if there is an item under every key that it names, and only then. The graph has
its roots and calls, as many and in the same order, with what is under each key in its place; and
whatever is asked of the graph later on, all it gives are items of the fixture. Otherwise the first
unknown key is reported, where roots come before calls and the caller of each call before its
callee. Nothing else in the fixture matters: with the same under the keys that are named it loads as
the same graph, so that the rows are the same, or fails with the same key. -/
theorem graph_of_keys (f : Fixture) :
    (∀ key i, f.item key = .ok i ↔ f.items.lookup key = some i)
      ∧ ((∃ g, f.graph = .ok g) ↔ ∀ key ∈ f.named, f.Knows key)
      ∧ (∀ g, f.graph = .ok g → f.Loads g ∧ g.GivesOnly f.Holds)
      ∧ (∀ e, f.graph = .error e ↔ ∃ before key behind, f.named = before ++ key :: behind
          ∧ (∀ k ∈ before, f.Knows k) ∧ ¬ f.Knows key ∧ e = .unknownItem key)
      ∧ (∀ key locate, (Failure.fixture (.unknownItem key)).message locate
          = "invalid call graph fixture: unknown item '" ++ key ++ "'")
      ∧ ∀ items, (∀ key ∈ f.named, items.lookup key = f.items.lookup key) →
          ({ f with items := items } : Fixture).graph = f.graph := by
  refine ⟨fun key i => Fixture.item_eq_ok_iff_lookup, f.reports_graph.exists_ok_iff,
    fun g hg => ?loaded, fun e => Fixture.graph_eq_error_iff, fun key locate => ?message,
    fun items h => Fixture.graph_of_lookup h⟩
  case loaded =>
    have hloads := Fixture.graph_eq_ok_iff.1 hg
    exact ⟨hloads, hloads.givesOnly⟩
  case message =>
    show "invalid call graph fixture: " ++ ("unknown item '" ++ key ++ "'") = _
    rw [← String.append_assoc, ← String.append_assoc]
    rfl

-- ============================================ a fixture with unknown keys

/-- The later program without two of its functions. -/
def Sample.keyedTorn : Fixture :=
  { keyedLater with items := [("main", function "main" 0)], roots := ["main"] }

/-- Of the two the callee of the first call is missed first. With both there the graph gives what
the fixture holds, and an item that nobody names makes no difference. -/
theorem keys_of_sample :
    Sample.keyedTorn.graph = .error (.unknownItem "peek")
      ∧ ∃ g, Sample.keyedLater.graph = .ok g
        ∧ Sample.keyedLater.Loads g ∧ g.GivesOnly Sample.keyedLater.Holds
        ∧ ({ Sample.keyedLater with
              items := Sample.keyedLater.items ++ [("lost", Sample.function "lost" 9)] }
            : Fixture).graph = .ok g := by
  obtain ⟨-, -, -, htorn, -, -⟩ := graph_of_keys Sample.keyedTorn
  obtain ⟨-, hloads, hgraph, -, -, hitems⟩ := graph_of_keys Sample.keyedLater
  refine ⟨(htorn _).2 ⟨["main", "main"], "peek", ["main", "scan", "scan", "main"], ?_⟩, ?_⟩
  · exact ⟨by decide, by decide, by decide, rfl⟩
  · obtain ⟨g, hg⟩ := hloads.2 (by decide)
    obtain ⟨hentries, hgives⟩ := hgraph g hg
    refine ⟨g, hg, hentries, hgives, (hitems _ fun key hkey => ?_).trans hg⟩
    have hknown := Fixture.knows_iff_isSome.1 (hloads.1 ⟨g, hg⟩ key hkey)
    rw [List.lookup_append, Option.or_of_isSome hknown]

end CallExplorer
