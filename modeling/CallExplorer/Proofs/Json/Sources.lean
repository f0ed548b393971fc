/-
Where decoded values come from.

A decoder makes things out of a document, and nothing it gives was not there. `Doc.values` are the
values that stand directly inside a document. What is in a record was read from one of them or is
the default of its field (`Fields.given_of_decode`), and so is what is in a list (`mem_of_list`).
These two go the other way than the lemmas about what is read: they take a success apart.

Two more things are known of any value that was read. It comes out in a form that reading again
leaves alone (`normal_normal`), and it nests no more deeply than its origin allows
(`any_allows`). The second is an induction over the document, which may be broken anywhere: only
what was read counts, not what stands beside it.
-/
import CallExplorer.Proofs.Action
import CallExplorer.Proofs.Json.Records

namespace CallExplorer

namespace Json

-- ============================================ members in order

section InOrder

variable {α : Type} {members : List (String × α)}

/-- The keys stand in order, each of them once. -/
def InOrder (members : List (String × α)) : Prop := members.Pairwise fun m n => m.1 < n.1

/-- A member goes where its key belongs. -/
theorem InOrder.insert (h : InOrder members) (k : String) (v : α) :
    InOrder (insert k v members) := by
  induction members with
  | nil => exact List.pairwise_singleton _ _
  | cons m rest ih =>
      obtain ⟨hm, hrest⟩ := List.pairwise_cons.1 h
      rw [Json.insert]
      split
      next hlt =>
        refine List.pairwise_cons.2 ⟨fun n hn => ?_, h⟩
        rcases List.mem_cons.1 hn with rfl | hn
        · exact hlt
        · exact String.lt_trans hlt (hm n hn)
      next hnot =>
        split
        next heq => exact List.pairwise_cons.2 ⟨fun n hn => heq ▸ hm n hn, hrest⟩
        next hne =>
          have hafter : m.1 < k := by
            refine Decidable.byContradiction fun hnot' => hne ?_
            exact String.le_antisymm (String.not_lt.1 hnot') (String.not_lt.1 hnot)
          refine List.pairwise_cons.2 ⟨fun n hn => ?_, ih hrest⟩
          rcases mem_insert hn with rfl | hn
          · exact hafter
          · exact hm n hn

/-- The members of an object that was read stand in order. -/
theorem inOrder_foldl (members : List (String × α)) :
    InOrder (members.foldl (fun ms m => insert m.1 m.2 ms) []) := by
  have hfold : ∀ (ms before : List (String × α)), InOrder before →
      InOrder (ms.foldl (fun ms m => Json.insert m.1 m.2 ms) before) := by
    intro ms
    induction ms with
    | nil => exact fun _ h => h
    | cons m ms ih => exact fun before h => ih _ (h.insert m.1 m.2)
  exact hfold members [] List.Pairwise.nil

/-- Members with keys of their own come into order, whatever order they were in. -/
theorem foldl_insert_of_perm {members' : List (String × α)} (horder : InOrder members)
    (hperm : members'.Perm members) :
    members'.foldl (fun ms m => Json.insert m.1 m.2 ms) [] = members := by
  have hkeys : (members.map (·.1)).Nodup := by
    refine List.pairwise_map.2 (horder.imp ?_)
    intro m n hlt heq
    rw [heq] at hlt
    exact String.lt_irrefl _ hlt
  have hsame := (foldl_insert_perm ((hperm.map _).symm.nodup hkeys)).trans hperm
  refine hsame.eq_of_pairwise ?_ (inOrder_foldl members') horder
  intro m n _ _ hmn hnm
  exact absurd hmn (String.lt_asymm hnm)

end InOrder

variable {members : List (String × Json)} {k : String} {v : Json}

/-- Members in order stay as they are. -/
theorem ofMembers_of_inOrder (h : InOrder members) : ofMembers members = .object members :=
  congrArg Json.object (foldl_insert_of_perm h (.refl _))

-- ============================================ reading twice

theorem normalMembers_of_normal (h : ∀ m ∈ members, m.2.normal = m.2) :
    normalMembers members = members := by
  rw [normalMembers_eq_map]
  refine (List.map_congr_left fun m hm => ?_).trans (List.map_id members)
  rw [h m hm]
  rfl

mutual

/-- Reading a value that was read before changes nothing. -/
theorem normal_normal : (v : Json) → v.normal.normal = v.normal
  | .null => rfl
  | .bool _ => rfl
  | .int _ => rfl
  | .float _ => rfl
  | .text _ => rfl
  | .array items => congrArg Json.array (normalItems_normalItems items)
  | .object members => by
    have hnormal : ∀ m ∈ (normalMembers members).foldl (fun ms m => Json.insert m.1 m.2 ms) [],
        m.2.normal = m.2 := by
      intro m hm
      rcases mem_of_mem_foldl hm with hnone | hm
      · cases hnone
      · exact normal_of_mem_normalMembers members m hm
    rw [normal, ofMembers, normal, normalMembers_of_normal hnormal]
    exact ofMembers_of_inOrder (inOrder_foldl _)

theorem normalItems_normalItems : (items : List Json) →
    normalItems (normalItems items) = normalItems items
  | [] => rfl
  | v :: rest => by rw [normalItems, normalItems, normal_normal v, normalItems_normalItems rest]

theorem normal_of_mem_normalMembers : (members : List (String × Json)) →
    ∀ m ∈ normalMembers members, m.2.normal = m.2
  | [], m, hm => by cases hm
  | (_, v) :: rest, m, hm => by
    rcases List.mem_cons.1 hm with rfl | hm
    · exact normal_normal v
    · exact normal_of_mem_normalMembers rest m hm

end

/-- What was kept of a value is the value as it was read. -/
theorem normal_of_kept {v w : Json} (h : v.kept = some w) : v.normal = w := by
  cases v with
  | null => cases h
  | _ => exact Option.some.inj h

/-- All of it is kept again. -/
theorem kept_of_kept {v w : Json} (h : v.kept = some w) : w.normal.kept = some w := by
  have hw := normal_of_kept h
  subst hw
  rw [normal_normal]
  cases v with
  | null => cases h
  | object members =>
      show some (normal (normal (.object members))) = _
      rw [normal_normal]
  | array items =>
      show some (normal (normal (.array items))) = _
      rw [normal_normal]
  | _ => rfl

-- ============================================ depth

/-- Putting members in order does not nest them more deeply. -/
theorem depth_ofMembers_le (members : List (String × Json)) :
    (ofMembers members).depth ≤ depthMembers members + 1 := by
  refine Nat.succ_le_succ (depthMembers_le_iff.2 fun m hm => ?_)
  rcases mem_of_mem_foldl hm with hnone | hm
  · cases hnone
  · exact depth_le_depthMembers hm

mutual

/-- Reading a value does not nest it more deeply. -/
theorem depth_normal_le : (v : Json) → v.normal.depth ≤ v.depth
  | .null => Nat.le_refl 0
  | .bool _ => Nat.le_refl 0
  | .int _ => Nat.le_refl 0
  | .float _ => Nat.le_refl 0
  | .text _ => Nat.le_refl 0
  | .array items => Nat.succ_le_succ (depthItems_normalItems_le items)
  | .object members =>
    Nat.le_trans (depth_ofMembers_le _) (Nat.succ_le_succ (depthMembers_normalMembers_le members))

theorem depthItems_normalItems_le : (items : List Json) →
    depthItems (normalItems items) ≤ depthItems items
  | [] => Nat.le_refl 0
  | v :: rest => by
    have hv := depth_normal_le v
    have hrest := depthItems_normalItems_le rest
    rw [normalItems, depthItems, depthItems]
    omega

theorem depthMembers_normalMembers_le : (members : List (String × Json)) →
    depthMembers (normalMembers members) ≤ depthMembers members
  | [] => Nat.le_refl 0
  | (_, v) :: rest => by
    have hv := depth_normal_le v
    have hrest := depthMembers_normalMembers_le rest
    rw [normalMembers, depthMembers, depthMembers]
    omega

end

theorem depth_of_kept {v w : Json} (h : v.kept = some w) : w.depth ≤ v.depth :=
  normal_of_kept h ▸ depth_normal_le v

-- ============================================ what stands inside a value

/-- The values that stand directly inside a value. -/
def values : Json → List Json
  | .array items => items
  | .object members => members.map (·.2)
  | _ => []

/-- They nest less deeply. -/
theorem depth_lt_of_mem_values {v w : Json} (h : w ∈ v.values) : w.depth < v.depth := by
  cases v with
  | array items =>
      have hitems : ∀ items : List Json, w ∈ items → w.depth ≤ depthItems items := by
        intro items hw
        induction items with
        | nil => cases hw
        | cons u rest ih =>
            rw [depthItems]
            rcases List.mem_cons.1 hw with rfl | hw
            · exact Nat.le_max_left _ _
            · exact Nat.le_trans (ih hw) (Nat.le_max_right _ _)
      exact Nat.lt_succ_of_le (hitems items h)
  | object members =>
      obtain ⟨⟨k, u⟩, hm, rfl⟩ := List.mem_map.1 h
      exact Nat.lt_succ_of_le (depth_le_depthMembers hm)
  | _ => cases h

end Json

-- ============================================ how deeply any value nests

/-- An array or object that was opened is allowed if what it holds is. -/
theorem Origin.Allows.leave {o inner : Origin} {n : Nat} (henter : o.enter = .ok inner)
    (h : inner.Allows n) : o.Allows (n + 1) := by
  cases o with
  | text levels =>
      cases levels with
      | zero => cases henter
      | succ levels =>
          cases henter
          exact Nat.succ_le_succ h
  | value => trivial

theorem Origin.allows_zero (o : Origin) : o.Allows 0 := by
  cases o with
  | text levels => exact Nat.zero_le levels
  | value => trivial

theorem Origin.Allows.max {o : Origin} {m n : Nat} (hm : o.Allows m) (hn : o.Allows n) :
    o.Allows (Nat.max m n) := by
  cases o with
  | text levels => exact Nat.max_le.2 ⟨hm, hn⟩
  | value => trivial

/-- What is rejected gives nothing. -/
theorem Doc.reject_ne_ok {α : Type} (wanted : Wanted) (d : Doc .value) (x : α) :
    reject wanted d ≠ .ok x := by
  intro h
  cases d with
  | number n => cases n <;> cases h
  | text s => cases s <;> cases h
  | _ => cases h

namespace Decoder

/-- How deeply a piece of a document nests when it was read. -/
def Denoted.depth : {p : Part} → Denoted p → Nat
  | .value, v => Json.depth v
  | .items, vs => Json.depthItems vs
  | .members, ms => Json.depthMembers ms

/-- A piece that was read nests no more deeply than its origin allows. -/
theorem anyPart_allows : {p : Part} → (d : Doc p) → (o : Origin) → {x : Denoted p} →
    anyPart d o = .ok x → o.Allows x.depth
  | _, .null, o, _, h => by
    cases h
    exact o.allows_zero
  | _, .bool _, o, _, h => by
    cases h
    exact o.allows_zero
  | _, .number n, o, _, h => by
    rw [anyPart] at h
    obtain ⟨m, -, h⟩ := ok_of_bind h
    cases m with
    | int n =>
        cases h
        exact o.allows_zero
    | float x =>
        cases h
        exact o.allows_zero
  | _, .text s, o, _, h => by
    rw [anyPart] at h
    obtain ⟨s, -, h⟩ := ok_of_bind h
    cases h
    exact o.allows_zero
  | _, .array ds, o, _, h => by
    rw [anyPart] at h
    obtain ⟨inner, henter, h⟩ := ok_of_bind h
    obtain ⟨xs, hitems, h⟩ := ok_of_bind h
    cases h
    exact (anyPart_allows ds inner hitems).leave henter
  | _, .object ds, o, _, h => by
    rw [anyPart] at h
    obtain ⟨inner, henter, h⟩ := ok_of_bind h
    obtain ⟨ms, hmembers, h⟩ := ok_of_bind h
    cases h
    exact ((anyPart_allows ds inner hmembers).leave henter).mono (Json.depth_ofMembers_le ms)
  | _, .noItems, o, _, h => by
    cases h
    exact o.allows_zero
  | _, .item head rest, o, _, h => by
    rw [anyPart] at h
    obtain ⟨x, hhead, h⟩ := ok_of_bind h
    obtain ⟨xs, hrest, h⟩ := ok_of_bind h
    cases h
    exact (anyPart_allows head o hhead).max (anyPart_allows rest o hrest)
  | _, .noMembers, o, _, h => by
    cases h
    exact o.allows_zero
  | _, .member key value rest, o, _, h => by
    rw [anyPart] at h
    obtain ⟨k, -, h⟩ := ok_of_bind h
    obtain ⟨x, hvalue, h⟩ := ok_of_bind h
    obtain ⟨xs, hrest, h⟩ := ok_of_bind h
    cases h
    exact (anyPart_allows value o hvalue).max (anyPart_allows rest o hrest)
  | _, .broken _ _, _, _, h => by cases h

/-- Any value that was read nests no more deeply than its origin allows. -/
theorem any_allows {o : Origin} {d : Doc .value} {v : Json} (h : any o d = .ok v) :
    o.Allows v.depth := anyPart_allows d o h

/-- What may be left out was read as what it is, if it was there. -/
theorem of_option {α : Type} {decode : Decoder α} {o : Origin} {d : Doc .value} {x : α}
    (h : decode.option o d = .ok (some x)) : decode o d = .ok x := by
  have hread : (decode o d).map some = .ok (some x) := by
    cases d with
    | null => cases h
    | _ => exact h
  cases hd : decode o d with
  | error e =>
      rw [hd] at hread
      cases hread
  | ok y =>
      rw [hd] at hread
      cases hread
      rfl

/-- What was made of what was read was made of something that was read. -/
theorem of_map {α β : Type} {f : α → β} {decode : Decoder α} {o : Origin} {d : Doc .value} {y : β}
    (h : decode.map f o d = .ok y) : ∃ x, decode o d = .ok x ∧ f x = y := by
  rw [map] at h
  cases hd : decode o d with
  | error e =>
      rw [hd] at h
      cases h
  | ok x =>
      rw [hd] at h
      cases h
      exact ⟨x, rfl, rfl⟩

end Decoder

-- ============================================ what stands inside a document

/-- The values that stand directly inside a piece of a document. -/
def Doc.values : {p : Part} → Doc p → List (Doc .value)
  | _, .array items => items.values
  | _, .object members => members.values
  | _, .item head rest => head :: rest.values
  | _, .member _ value rest => value :: rest.values
  | _, _ => []

theorem Doc.values_ofItems (items : List Json) : (ofItems items).values = items.map ofJson := by
  induction items with
  | nil => rfl
  | cons v rest ih => rw [ofItems, values, ih, List.map_cons]

theorem Doc.values_ofMembers (members : List (String × Json)) :
    (ofMembers members).values = members.map fun m => ofJson m.2 := by
  induction members with
  | nil => rfl
  | cons m rest ih =>
      obtain ⟨k, v⟩ := m
      rw [ofMembers, values, ih, List.map_cons]

/-- The document of a value holds the documents of what the value holds. -/
theorem Doc.values_ofJson (v : Json) : (ofJson v).values = v.values.map ofJson := by
  cases v with
  | array items => exact values_ofItems items
  | object members =>
      rw [ofJson, values, values_ofMembers, Json.values, List.map_map]
      rfl
  | _ => rfl

namespace Fields

variable {o : Origin} {ds : List (Doc .value)} {name : String}

/-- Each value is the default of its field or was read by it from one of the documents. -/
def Given (o : Origin) (ds : List (Doc .value)) : {γ δ : Type} → Fields γ δ → γ → Prop
  | _, _, .nil, _ => True
  | _, _, .cons f rest, (x, xs) =>
    (f.absent = some x ∨ ∃ d ∈ ds, f.decode o d = .ok x) ∧ rest.Given o ds xs

/-- Each value in a draft was read by its field from one of the documents. -/
def Drafted (o : Origin) (ds : List (Doc .value)) : {γ δ : Type} → Fields γ δ → δ → Prop
  | _, _, .nil, _ => True
  | _, _, .cons f rest, (v, vs) =>
    (∀ x, v = some x → ∃ d ∈ ds, f.decode o d = .ok x) ∧ rest.Drafted o ds vs

theorem drafted_blank : {γ δ : Type} → (fs : Fields γ δ) → fs.Drafted o ds fs.blank
  | _, _, .nil => trivial
  | _, _, .cons _ rest => ⟨fun x hx => absurd hx (Option.some_ne_none x).symm, drafted_blank rest⟩

/-- A member that is read into a draft is where the new value is from. -/
theorem drafted_fill {k : String} {d : Doc .value} (hd : d ∈ ds) : {γ δ : Type} →
    (fs : Fields γ δ) → {draft draft' : δ} → fs.Drafted o ds draft →
      fs.fill o k d draft = some (.ok draft') → fs.Drafted o ds draft'
  | _, _, .nil, _, _, _, h => by cases h
  | _, _, .cons f rest, (v, vs), _, hdraft, h => by
    rw [fill_cons] at h
    split at h
    next hname =>
      cases v with
      | some y => cases h
      | none =>
          cases hread : f.decode o d with
          | error e =>
              rw [hread] at h
              cases h
          | ok x =>
              rw [hread] at h
              cases h
              refine ⟨fun y hy => ?_, hdraft.2⟩
              cases hy
              exact ⟨d, hd, hread⟩
    next hname =>
      cases hfill : rest.fill o k d vs with
      | none =>
          rw [hfill] at h
          cases h
      | some r =>
          cases r with
          | error e =>
              rw [hfill] at h
              cases h
          | ok vs' =>
              rw [hfill] at h
              cases h
              exact ⟨hdraft.1, drafted_fill hd rest hdraft.2 hfill⟩

theorem drafted_fromMembers {γ δ : Type} {fs : Fields γ δ} : (ms : Doc .members) →
    (∀ d ∈ ms.values, d ∈ ds) → {draft draft' : δ} → fs.Drafted o ds draft →
      fs.fromMembers o ms draft = .ok draft' → fs.Drafted o ds draft'
  | .noMembers, _, _, _, hdraft, h => by
    rw [fromMembers] at h
    cases h
    exact hdraft
  | .member key value rest, hin, draft, _, hdraft, h => by
    have hrest : ∀ d ∈ rest.values, d ∈ ds := fun d hd => hin d (List.mem_cons_of_mem _ hd)
    rw [fromMembers] at h
    obtain ⟨k, -, h⟩ := ok_of_bind h
    cases hfill : fs.fill o k value draft with
    | none =>
        rw [hfill] at h
        obtain ⟨-, -, h⟩ := ok_of_bind h
        exact drafted_fromMembers rest hrest hdraft h
    | some r =>
        rw [hfill] at h
        obtain ⟨draft₁, rfl, h⟩ := ok_of_bind h
        exact drafted_fromMembers rest hrest
          (drafted_fill (hin value List.mem_cons_self) fs hdraft hfill) h
  | .broken _ _, _, _, _, _, h => by
    rw [fromMembers] at h
    cases h

/-- A draft is finished with defaults. -/
theorem given_finish : {γ δ : Type} → (fs : Fields γ δ) → {draft : δ} → {xs : γ} →
    fs.Drafted o ds draft → fs.finish draft = .ok xs → fs.Given o ds xs
  | _, _, .nil, _, _, _, _ => trivial
  | _, _, .cons f rest, (v, vs), _, hdraft, h => by
    rw [finish] at h
    cases hhead : v.or f.absent with
    | none =>
        rw [hhead] at h
        cases h
    | some x =>
        rw [hhead] at h
        obtain ⟨xs, hrest, h⟩ := ok_of_bind (x := rest.finish vs) h
        cases h
        refine ⟨?_, given_finish rest hdraft.2 hrest⟩
        rcases Option.or_eq_some_iff.1 hhead with hfound | ⟨-, habsent⟩
        · exact .inr (hdraft.1 x hfound)
        · exact .inl habsent

theorem given_fromItems {total : Nat} : {γ δ : Type} → (fs : Fields γ δ) → {given : Nat} →
    {items left : Doc .items} → {xs : γ} → (∀ d ∈ items.values, d ∈ ds) →
      fromItems o name total fs given items = .ok (xs, left) → fs.Given o ds xs
  | _, _, .nil, _, _, _, _, _, _ => trivial
  | _, _, .cons f rest, _, .item d items, _, _, hin, h => by
    rw [fromItems] at h
    obtain ⟨x, hread, h⟩ := ok_of_bind h
    obtain ⟨⟨xs, left⟩, hrest, h⟩ := ok_of_bind h
    cases h
    have hitems : ∀ d ∈ items.values, d ∈ ds := fun d hd => hin d (List.mem_cons_of_mem _ hd)
    exact ⟨.inr ⟨d, hin d List.mem_cons_self, hread⟩, given_fromItems rest hitems hrest⟩
  | _, _, .cons f rest, _, .noItems, _, _, hin, h => by
    rw [fromItems] at h
    split at h
    next x _ habsent =>
      obtain ⟨⟨xs, left⟩, hrest, h⟩ := ok_of_bind h
      cases h
      exact ⟨.inl habsent, given_fromItems rest hin hrest⟩
    next => cases h
  | _, _, .cons _ _, _, .broken _ _, _, _, _, h => by cases h

/-- A record was read from what stands inside its document. -/
theorem given_of_decode {γ δ : Type} {fs : Fields γ δ} {d : Doc .value} {xs : γ}
    (h : fs.decode name o d = .ok xs) :
    ∃ inner, o.enter = .ok inner ∧ fs.Given inner d.values xs := by
  cases d with
  | object ms =>
      rw [decode] at h
      obtain ⟨inner, henter, h⟩ := ok_of_bind h
      obtain ⟨draft, hread, h⟩ := ok_of_bind h
      exact ⟨inner, henter, fs.given_finish
        (drafted_fromMembers ms (fun _ hd => hd) fs.drafted_blank hread) h⟩
  | array items =>
      rw [decode] at h
      obtain ⟨inner, henter, h⟩ := ok_of_bind h
      obtain ⟨⟨xs', left⟩, hread, h⟩ := ok_of_bind h
      obtain ⟨-, -, h⟩ := ok_of_bind h
      cases h
      exact ⟨inner, henter, fs.given_fromItems (fun _ hd => hd) hread⟩
  | null => exact absurd h (Doc.reject_ne_ok _ .null _)
  | bool b => exact absurd h (Doc.reject_ne_ok _ (.bool b) _)
  | number n => exact absurd h (Doc.reject_ne_ok _ (.number n) _)
  | text s => exact absurd h (Doc.reject_ne_ok _ (.text s) _)
  | broken e f => exact absurd h (Doc.reject_ne_ok _ (.broken e f) _)

/-- So was a record that was read from a value. -/
theorem given_of_decodeValue {γ δ : Type} {fs : Fields γ δ} {v : Json} {xs : γ}
    (h : decodeValue (fs.decode name) v = .ok xs) :
    fs.Given .value (v.values.map Doc.ofJson) xs := by
  obtain ⟨inner, henter, hgiven⟩ := given_of_decode h
  cases henter
  rwa [Doc.values_ofJson] at hgiven

end Fields

-- ============================================ lists

/-- What is in a list was read from one of the items. -/
theorem Decoder.mem_of_items {α : Type} {decode : Doc .value → Except DecodeError α} :
    (ds : Doc .items) → {xs : List α} → items decode ds = .ok xs →
      ∀ x ∈ xs, ∃ d ∈ ds.values, decode d = .ok x
  | .noItems, _, h, x, hx => by
    rw [items] at h
    cases h
    cases hx
  | .item head rest, _, h, x, hx => by
    rw [items] at h
    obtain ⟨y, hhead, h⟩ := ok_of_bind h
    obtain ⟨ys, hrest, h⟩ := ok_of_bind h
    cases h
    rcases List.mem_cons.1 hx with rfl | hx
    · exact ⟨head, List.mem_cons_self, hhead⟩
    · obtain ⟨d, hd, hread⟩ := mem_of_items rest hrest x hx
      exact ⟨d, List.mem_cons_of_mem _ hd, hread⟩
  | .broken _ _, _, h, _, _ => by
    rw [items] at h
    cases h

/-- What is in a list was read from what stands inside the document. -/
theorem Decoder.mem_of_list {α : Type} {decode : Decoder α} {o : Origin} {d : Doc .value}
    {xs : List α} (h : decode.list o d = .ok xs) :
    ∃ inner, o.enter = .ok inner ∧ ∀ x ∈ xs, ∃ e ∈ d.values, decode inner e = .ok x := by
  cases d with
  | array ds =>
      rw [list] at h
      obtain ⟨inner, henter, h⟩ := ok_of_bind h
      exact ⟨inner, henter, mem_of_items ds h⟩
  | null => exact absurd h (Doc.reject_ne_ok _ .null _)
  | bool b => exact absurd h (Doc.reject_ne_ok _ (.bool b) _)
  | number n => exact absurd h (Doc.reject_ne_ok _ (.number n) _)
  | text s => exact absurd h (Doc.reject_ne_ok _ (.text s) _)
  | object ms => exact absurd h (Doc.reject_ne_ok _ (.object ms) _)
  | broken e f => exact absurd h (Doc.reject_ne_ok _ (.broken e f) _)

end CallExplorer
