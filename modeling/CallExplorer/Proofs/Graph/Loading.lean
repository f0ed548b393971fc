/-
Fixtures and the call graphs they stand for.

A fixture names items by keys, a call graph holds the items themselves. `Loads` says entry by
entry when a call graph is what a fixture stands for. That is the graph that a fixture loads as
(`graph_eq_ok_iff`): its entries are those of the fixture, in order and with repetitions.
-/
import Mathlib.Data.List.Forall2
import Mathlib.Data.List.Nodup
import CallExplorer.Graph.Fixture

namespace CallExplorer

namespace Fixture

variable {f : Fixture}

-- ============================================ entries

/-- A call between the items that a keyed call names, with its sites. -/
structure LoadsCall (f : Fixture) (k : KeyedCall) (c : Call) : Prop where
  caller : f.item k.caller = .ok c.caller
  callee : f.item k.callee = .ok c.callee
  sites : k.sites = c.sites

/-- A call graph has the entries of a fixture, with the item of each key in its place. -/
structure Loads (f : Fixture) (g : CallGraph) : Prop where
  roots : List.Forall₂ (fun key i => f.item key = .ok i) f.roots g.roots
  calls : List.Forall₂ f.LoadsCall f.calls g.calls

theorem itemsOf_eq_ok_iff {keys : List String} {is : List Item} :
    f.itemsOf keys = .ok is ↔ List.Forall₂ (fun key i => f.item key = .ok i) keys is := by
  induction keys generalizing is with
  | nil => cases is <;> simp [itemsOf]
  | cons key rest ih =>
      cases hi : f.item key with
      | error e => cases is <;> simp [itemsOf, bind, Except.bind, hi]
      | ok i =>
          cases hrest : f.itemsOf rest with
          | error e => cases is <;> simp [itemsOf, bind, Except.bind, hi, ← ih, hrest]
          | ok others => cases is <;> simp [itemsOf, bind, Except.bind, hi, ← ih, hrest]

theorem loadsCall_iff {k : KeyedCall} {caller callee : Item} {c : Call}
    (hcaller : f.item k.caller = .ok caller) (hcallee : f.item k.callee = .ok callee) :
    f.LoadsCall k c ↔ (⟨caller, callee, k.sites⟩ : Call) = c := by
  constructor
  · rintro ⟨hr, he, hs⟩
    rw [hcaller] at hr
    rw [hcallee] at he
    injection hr with hr
    injection he with he
    rw [hr, he, hs]
  · rintro rfl
    exact ⟨hcaller, hcallee, rfl⟩

theorem callsOf_eq_ok_iff {ks : List KeyedCall} {cs : List Call} :
    f.callsOf ks = .ok cs ↔ List.Forall₂ f.LoadsCall ks cs := by
  induction ks generalizing cs with
  | nil => cases cs <;> simp [callsOf]
  | cons k rest ih =>
      -- without one of the two items there is no call, and nothing is loaded
      have hmissing : ∀ {e : FixtureError},
          f.item k.caller = .error e ∨ f.item k.callee = .error e → ∀ c, ¬ f.LoadsCall k c := by
        rintro e (he | he) c hc
        · have := hc.caller
          rw [he] at this
          cases this
        · have := hc.callee
          rw [he] at this
          cases this
      cases hcaller : f.item k.caller with
      | error e =>
          have := hmissing (.inl hcaller)
          cases cs <;> simp [callsOf, bind, Except.bind, hcaller, this]
      | ok caller =>
          cases hcallee : f.item k.callee with
          | error e =>
              have := hmissing (.inr hcallee)
              cases cs <;> simp [callsOf, bind, Except.bind, hcaller, hcallee, this]
          | ok callee =>
              cases hrest : f.callsOf rest with
              | error e =>
                  cases cs <;> simp [callsOf, bind, Except.bind, hcaller, hcallee, ← ih, hrest]
              | ok others =>
                  cases cs <;> simp [callsOf, bind, Except.bind, hcaller, hcallee, ← ih, hrest,
                    loadsCall_iff hcaller hcallee]

/-- A fixture loads as the call graph with its entries, and as no other. -/
theorem graph_eq_ok_iff {g : CallGraph} : f.graph = .ok g ↔ f.Loads g := by
  constructor
  · intro h
    cases hroots : f.itemsOf f.roots with
    | error e => simp [graph, bind, Except.bind, hroots] at h
    | ok roots =>
        cases hcalls : f.callsOf f.calls with
        | error e => simp [graph, bind, Except.bind, hroots, hcalls] at h
        | ok calls =>
            obtain rfl : ⟨roots, calls⟩ = g := by
              simpa [graph, bind, Except.bind, hroots, hcalls] using h
            exact ⟨itemsOf_eq_ok_iff.1 hroots, callsOf_eq_ok_iff.1 hcalls⟩
  · rintro ⟨hroots, hcalls⟩
    simp [graph, bind, Except.bind, itemsOf_eq_ok_iff.2 hroots, callsOf_eq_ok_iff.2 hcalls]

-- ============================================ dictionaries

/-- Keys that differ find what stands under them, wherever it stands. -/
theorem item_eq_ok_iff (hkeys : (f.items.map (·.1)).Nodup) {key : String} {i : Item} :
    f.item key = .ok i ↔ (key, i) ∈ f.items := by
  constructor
  · intro h
    rw [item] at h
    split at h
    next k i' hfind =>
        obtain rfl : k = key := by simpa using List.find?_some hfind
        injection h with h
        rw [← h]
        exact List.mem_of_find?_eq_some hfind
    next => cases h
  · intro h
    have hsome : (f.items.find? (·.1 == key)).isSome := by
      rw [List.find?_isSome]
      exact ⟨(key, i), h, by simp⟩
    obtain ⟨⟨k, i'⟩, hfind⟩ := Option.isSome_iff_exists.1 hsome
    obtain rfl : k = key := by simpa using List.find?_some hfind
    have hsame := List.inj_on_of_nodup_map hkeys (List.mem_of_find?_eq_some hfind) h rfl
    rw [item, hfind, ← (Prod.mk.inj hsame).2]

end Fixture

end CallExplorer
