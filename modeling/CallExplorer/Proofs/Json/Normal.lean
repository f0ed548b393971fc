/-
What is left of a value that was read.

Reading any value keeps everything but the order of members: those of an object come out in the
order of their keys, and of several with one key the last counts. `normal` says so by recursion
over the value. Members with keys of their own are all still there (`ofMembers_perm`), so whoever
looks up a member need not know the order (`get?_normal`).

Arrays and objects of a text may nest only so deeply. `depth` counts the levels.
-/
import CallExplorer.Json.Decoder
import CallExplorer.Proofs.Json.Printing

namespace CallExplorer

namespace Json

-- ============================================ definitions

mutual

/-- A value as it is read. -/
def normal : Json → Json
  | .array items => .array (normalItems items)
  | .object members => ofMembers (normalMembers members)
  | .null => .null
  | .bool b => .bool b
  | .int n => .int n
  | .float x => .float x
  | .text s => .text s
termination_by structural v => v

/-- The items of an array as they are read. -/
def normalItems : List Json → List Json
  | [] => []
  | v :: rest => v.normal :: normalItems rest
termination_by structural items => items

/-- The members of an object as they are read, before they are put in order. -/
def normalMembers : List (String × Json) → List (String × Json)
  | [] => []
  | (k, v) :: rest => (k, v.normal) :: normalMembers rest
termination_by structural members => members

end

mutual

/-- How many arrays and objects are open at once, at most. -/
def depth : Json → Nat
  | .array items => depthItems items + 1
  | .object members => depthMembers members + 1
  | .null => 0
  | .bool _ => 0
  | .int _ => 0
  | .float _ => 0
  | .text _ => 0
termination_by structural v => v

/-- The same for the items of an array. -/
def depthItems : List Json → Nat
  | [] => 0
  | v :: rest => max v.depth (depthItems rest)
termination_by structural items => items

/-- The same for the members of an object. -/
def depthMembers : List (String × Json) → Nat
  | [] => 0
  | (_, v) :: rest => max v.depth (depthMembers rest)
termination_by structural members => members

end

theorem normalItems_eq_map (items : List Json) : normalItems items = items.map normal := by
  induction items with
  | nil => rfl
  | cons v rest ih => rw [normalItems, ih, List.map_cons]

theorem normalMembers_eq_map (members : List (String × Json)) :
    normalMembers members = members.map fun m => (m.1, m.2.normal) := by
  induction members with
  | nil => rfl
  | cons m rest ih => rw [normalMembers, ih, List.map_cons]

theorem keys_normalMembers (members : List (String × Json)) :
    (normalMembers members).map (·.1) = members.map (·.1) := by
  rw [normalMembers_eq_map, List.map_map]
  rfl

theorem mem_normalMembers {k : String} {v : Json} {members : List (String × Json)}
    (h : (k, v) ∈ members) : (k, v.normal) ∈ normalMembers members := by
  rw [normalMembers_eq_map]
  exact List.mem_map.2 ⟨_, h, rfl⟩

/-- Items nest as deeply as the deepest of them. -/
theorem depthItems_le_iff {items : List Json} {n : Nat} :
    depthItems items ≤ n ↔ ∀ v ∈ items, v.depth ≤ n := by
  induction items with
  | nil => simp [depthItems]
  | cons v rest ih => rw [depthItems, Nat.max_le, ih, List.forall_mem_cons]

/-- Members nest as deeply as the deepest of them. -/
theorem depthMembers_le_iff {members : List (String × Json)} {n : Nat} :
    depthMembers members ≤ n ↔ ∀ m ∈ members, m.2.depth ≤ n := by
  induction members with
  | nil => simp [depthMembers]
  | cons m rest ih =>
      obtain ⟨k, v⟩ := m
      rw [depthMembers, Nat.max_le, ih, List.forall_mem_cons]

/-- No member nests more deeply than all of them. -/
theorem depth_le_depthMembers {k : String} {v : Json} {members : List (String × Json)}
    (h : (k, v) ∈ members) : v.depth ≤ depthMembers members :=
  depthMembers_le_iff.1 (Nat.le_refl _) (k, v) h

-- ============================================ members in order

/-- A new key comes to the others. -/
theorem insert_perm {α : Type} {key : String} (value : α) {members : List (String × α)}
    (h : key ∉ members.map (·.1)) : (insert key value members).Perm ((key, value) :: members) := by
  induction members with
  | nil => exact .refl _
  | cons m rest ih =>
      obtain ⟨k, v⟩ := m
      rw [List.map_cons, List.mem_cons, not_or] at h
      rw [insert]
      split
      · exact .refl _
      · rw [if_neg h.1]
        exact ((ih h.2).cons (k, v)).trans (.swap _ _ _)

/-- Members with keys of their own are all put in. -/
theorem foldl_insert_perm {α : Type} {members : List (String × α)}
    (h : (members.map (·.1)).Nodup) :
    (members.foldl (fun ms m => insert m.1 m.2 ms) []).Perm members := by
  -- what was put in before stays in front of what is still to come
  have hfold : ∀ (ms before : List (String × α)), ((before ++ ms).map (·.1)).Nodup →
      (ms.foldl (fun ms m => insert m.1 m.2 ms) before).Perm (before ++ ms) := by
    intro ms
    induction ms with
    | nil =>
        intro before _
        rw [List.append_nil]
        exact .refl _
    | cons m ms ih =>
        intro before hnodup
        have hmoved : (before ++ m :: ms).Perm (m :: before ++ ms) := List.perm_middle
        have hfront := (hmoved.map (·.1)).nodup hnodup
        have hnew : m.1 ∉ before.map (·.1) := by
          intro hmem
          rw [List.cons_append, List.map_cons, List.nodup_cons] at hfront
          exact hfront.1 (by rw [List.map_append]; exact List.mem_append_left _ hmem)
        have hin : (insert m.1 m.2 before ++ ms).Perm (m :: before ++ ms) :=
          (insert_perm m.2 hnew).append_right ms
        rw [List.foldl_cons]
        exact (ih _ ((hin.map (·.1)).symm.nodup hfront)).trans (hin.trans hmoved.symm)
  exact hfold members [] h

/-- An object of members with keys of their own has just these. -/
theorem ofMembers_perm {members : List (String × Json)} (h : (members.map (·.1)).Nodup) :
    ∃ sorted, ofMembers members = .object sorted ∧ sorted.Perm members :=
  ⟨_, rfl, foldl_insert_perm h⟩

-- ============================================ whole numbers stay whole

/-- All numbers are whole if those of each member are. -/
theorem haveWhole_iff {members : List (String × Json)} :
    haveWhole members = true ↔ ∀ m ∈ members, m.2.isWhole = true := by
  induction members with
  | nil => simp [haveWhole]
  | cons m rest ih =>
      rw [haveWhole, Bool.and_eq_true, ih, List.forall_mem_cons]

theorem mem_insert {α : Type} {key : String} {value : α} {members : List (String × α)}
    {m : String × α} (h : m ∈ insert key value members) : m = (key, value) ∨ m ∈ members := by
  induction members with
  | nil => exact .inl (List.mem_singleton.1 h)
  | cons n rest ih =>
      obtain ⟨k, v⟩ := n
      rw [insert] at h
      split at h
      · exact List.mem_cons.1 h
      · split at h
        · rcases List.mem_cons.1 h with heq | hrest
          · exact .inl heq
          · exact .inr (List.mem_cons_of_mem _ hrest)
        · rcases List.mem_cons.1 h with heq | hrest
          · exact .inr (heq ▸ List.mem_cons_self)
          · exact (ih hrest).imp_right (List.mem_cons_of_mem _)

theorem mem_of_mem_foldl {members before : List (String × Json)} {m : String × Json}
    (h : m ∈ members.foldl (fun ms m => insert m.1 m.2 ms) before) : m ∈ before ∨ m ∈ members := by
  induction members generalizing before with
  | nil => exact .inl h
  | cons n rest ih =>
      rcases ih h with hbefore | hrest
      · rcases mem_insert hbefore with heq | hold
        · exact .inr (heq ▸ List.mem_cons_self)
        · exact .inl hold
      · exact .inr (List.mem_cons_of_mem _ hrest)

mutual

/-- Whole numbers are read as whole numbers. -/
theorem isWhole_normal : (v : Json) → v.isWhole = true → v.normal.isWhole = true
  | .null, _ => rfl
  | .bool _, _ => rfl
  | .int _, h => h
  | .text _, _ => rfl
  | .array items, h => areWhole_normal items h
  | .object members, h => by
    refine haveWhole_iff.2 fun m hm => ?_
    rcases mem_of_mem_foldl hm with hnone | hm
    · cases hnone
    · exact haveWhole_iff.1 (haveWhole_normal members h) m hm

theorem areWhole_normal : (items : List Json) → areWhole items = true →
    areWhole (normalItems items) = true
  | [], _ => rfl
  | v :: rest, h => by
    rw [areWhole, Bool.and_eq_true] at h
    rw [normalItems, areWhole, isWhole_normal v h.1, areWhole_normal rest h.2]
    rfl

theorem haveWhole_normal : (members : List (String × Json)) → haveWhole members = true →
    haveWhole (normalMembers members) = true
  | [], _ => rfl
  | (k, v) :: rest, h => by
    rw [haveWhole, Bool.and_eq_true] at h
    rw [normalMembers, haveWhole, isWhole_normal v h.1, haveWhole_normal rest h.2]
    rfl

end

-- ============================================ looking up a member

variable {members : List (String × Json)} {key : String}

theorem find_key_eq_some (hkeys : (members.map (·.1)).Nodup) {v : Json}
    (h : (key, v) ∈ members) : members.find? (·.1 == key) = some (key, v) := by
  induction members with
  | nil => cases h
  | cons m rest ih =>
      rw [List.map_cons, List.nodup_cons] at hkeys
      rcases List.mem_cons.1 h with rfl | hrest
      · rw [List.find?_cons_of_pos (by simp)]
      · have hother : m.1 ≠ key := by
          rintro rfl
          exact hkeys.1 (List.mem_map.2 ⟨_, hrest, rfl⟩)
        rw [List.find?_cons_of_neg (by simpa using hother), ih hkeys.2 hrest]

/-- A member is found when the object was read, and so is its value. -/
theorem get?_normal (hkeys : (members.map (·.1)).Nodup) {v : Json} (h : (key, v) ∈ members) :
    (Json.object members).normal.get? key = some v.normal := by
  have hkeys' : ((normalMembers members).map (·.1)).Nodup := by rwa [keys_normalMembers]
  obtain ⟨sorted, hsorted, hperm⟩ := ofMembers_perm hkeys'
  have hfound := find_key_eq_some ((hperm.map _).symm.nodup hkeys')
    (hperm.mem_iff.2 (mem_normalMembers h))
  rw [normal, hsorted, get?, hfound]
  rfl

/-- No other member is found. -/
theorem get?_normal_of_not_mem (h : key ∉ members.map (·.1)) :
    (Json.object members).normal.get? key = none := by
  rw [normal, ofMembers, get?, Option.map_eq_none_iff, List.find?_eq_none]
  intro m hm hkey
  rcases mem_of_mem_foldl hm with hnone | hm
  · cases hnone
  · refine h ?_
    rw [← keys_normalMembers]
    exact List.mem_map.2 ⟨m, hm, by simpa using hkey⟩

end Json

-- ============================================ reading any value

/-- Whether so many arrays and objects may be opened. -/
def Origin.Allows : Origin → Nat → Prop
  | .text levels, n => n ≤ levels
  | .value, _ => True

/-- What is less deep is allowed, too. -/
theorem Origin.Allows.mono {o : Origin} {m n : Nat} (h : o.Allows n) (hle : m ≤ n) :
    o.Allows m := by
  cases o with
  | text levels => exact Nat.le_trans hle h
  | value => trivial

/-- An array or object can be opened where it is allowed, and what is inside is allowed then. -/
theorem Origin.Allows.enter {o : Origin} {n : Nat} (h : o.Allows (n + 1)) :
    ∃ inner, o.enter = .ok inner ∧ inner.Allows n := by
  cases o with
  | text levels =>
      obtain ⟨levels, rfl⟩ := Nat.exists_eq_add_one_of_ne_zero (Nat.ne_zero_of_lt h)
      exact ⟨.text levels, rfl, Nat.le_of_succ_le_succ h⟩
  | value => exact ⟨.value, rfl, trivial⟩

namespace Decoder

open Doc (ofJson ofItems ofMembers)

mutual

/-- Any value is read as it is, but for the order of members. -/
theorem any_ofJson : (v : Json) → (o : Origin) → o.Allows v.depth →
    any o (ofJson v) = .ok v.normal
  | .null, _, _ => rfl
  | .bool _, _, _ => rfl
  | .int _, _, _ => rfl
  | .float _, _, _ => rfl
  | .text _, _, _ => rfl
  | .array items, o, h => by
    obtain ⟨inner, henter, hinner⟩ := h.enter
    have hitems := anyItems_ofItems items inner hinner
    rw [any, ofJson, anyPart, henter]
    show (anyPart (ofItems items) inner).bind _ = _
    rw [hitems]
    rfl
  | .object members, o, h => by
    obtain ⟨inner, henter, hinner⟩ := h.enter
    have hmembers := anyMembers_ofMembers members inner hinner
    rw [any, ofJson, anyPart, henter]
    show (anyPart (ofMembers members) inner).bind _ = _
    rw [hmembers]
    rfl

theorem anyItems_ofItems : (items : List Json) → (o : Origin) → o.Allows (Json.depthItems items) →
    (anyPart (ofItems items) o : Except DecodeError (List Json)) = .ok (Json.normalItems items)
  | [], _, _ => rfl
  | v :: rest, o, h => by
    have hv := any_ofJson v o (h.mono (Nat.le_max_left _ _))
    have hrest := anyItems_ofItems rest o (h.mono (Nat.le_max_right _ _))
    rw [any] at hv
    rw [ofItems, anyPart]
    show (anyPart (ofJson v) o).bind _ = _
    rw [hv]
    show (anyPart (ofItems rest) o).bind _ = _
    rw [hrest]
    rfl

theorem anyMembers_ofMembers : (members : List (String × Json)) → (o : Origin) →
    o.Allows (Json.depthMembers members) →
    (anyPart (ofMembers members) o : Except DecodeError (List (String × Json)))
      = .ok (Json.normalMembers members)
  | [], _, _ => rfl
  | (k, v) :: rest, o, h => by
    have hv := any_ofJson v o (h.mono (Nat.le_max_left _ _))
    have hrest := anyMembers_ofMembers rest o (h.mono (Nat.le_max_right _ _))
    rw [any] at hv
    rw [ofMembers, anyPart]
    show (anyPart (ofJson v) o).bind _ = _
    rw [hv]
    show (anyPart (ofMembers rest) o).bind _ = _
    rw [hrest]
    rfl

end

end Decoder

end CallExplorer
