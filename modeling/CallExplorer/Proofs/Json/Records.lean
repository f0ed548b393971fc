/-
Records from values.

The document of a value is well formed, and passing over any part of it is no error. So what a
record reads from an object value is known from the members: a field has the value that the member
of its name is read as, or its default if there is no such member. This needs members with keys of
their own, in any order, and fields with names of their own.

`Completes` says so of the members of a value, as `Fields.Have` says it of the entries of any
document. It does not matter whether the value was read before, which puts its members in order.
-/
import CallExplorer.Proofs.Json.Entries

namespace CallExplorer

-- ============================================ what is passed over

namespace Doc

mutual

/-- Passing over a value is no error. -/
theorem skip_ofJson : (v : Json) → (ofJson v).skip = .ok ()
  | .null => rfl
  | .bool _ => rfl
  | .int _ => rfl
  | .float _ => rfl
  | .text _ => rfl
  | .array items => skip_ofItems items
  | .object members => skip_ofMembers members

theorem skip_ofItems : (items : List Json) → (ofItems items).skip = .ok ()
  | [] => rfl
  | v :: rest => by
    rw [ofItems, skip, skip_ofJson v]
    exact skip_ofItems rest

theorem skip_ofMembers : (members : List (String × Json)) → (ofMembers members).skip = .ok ()
  | [] => rfl
  | (_, v) :: rest => by
    rw [ofMembers, skip, skip_ofJson v]
    exact skip_ofMembers rest

end

end Doc

-- ============================================ entries of values

namespace Doc

variable {members : List (String × Json)} {k : String}

/-- The members of an object value as entries of a document. -/
def entriesOf (members : List (String × Json)) : List (String × Doc .value) :=
  members.map fun m => (m.1, ofJson m.2)

theorem ofMembers_eq_ofEntries (members : List (String × Json)) :
    ofMembers members = ofEntries (entriesOf members) := by
  induction members with
  | nil => rfl
  | cons m rest ih =>
      obtain ⟨k, v⟩ := m
      rw [ofMembers, ih]
      rfl

theorem ofItems_eq_ofDocs (items : List Json) : ofItems items = ofDocs (items.map ofJson) := by
  induction items with
  | nil => rfl
  | cons v rest ih => rw [ofItems, ih, List.map_cons, ofDocs]

theorem named_entriesOf_eq_nil (h : k ∉ members.map (·.1)) : named k (entriesOf members) = [] := by
  rw [named_eq_nil_iff, entriesOf, List.map_map]
  exact h

/-- Of members with keys of their own there is one with a key. -/
theorem named_entriesOf {v : Json} (hkeys : (members.map (·.1)).Nodup) (h : (k, v) ∈ members) :
    named k (entriesOf members) = [ofJson v] := by
  induction members with
  | nil => cases h
  | cons m rest ih =>
      obtain ⟨k', v'⟩ := m
      rw [List.map_cons, List.nodup_cons] at hkeys
      rw [entriesOf, List.map_cons]
      rcases List.mem_cons.1 h with heq | hrest
      · injection heq with hk hv
        subst hk hv
        rw [named_cons_self]
        exact congrArg _ (named_entriesOf_eq_nil hkeys.1)
      · have hne : k' ≠ k := by
          rintro rfl
          exact hkeys.1 (List.mem_map.2 ⟨_, hrest, rfl⟩)
        rw [named_cons_of_ne hne]
        exact ih hkeys.2 hrest

end Doc

-- ============================================ values that may be left out

/-- A value that is not `null` is read as if it had to be there. -/
theorem Decoder.option_of_ne_null {α : Type} {decode : Decoder α} {o : Origin} {d : Doc .value}
    {x : α} (hnull : d ≠ .null) (h : decode o d = .ok x) : decode.option o d = .ok (some x) := by
  have hoption : decode.option o d = (decode o d).map some := by
    cases d with
    | null => exact absurd rfl hnull
    | _ => rfl
  rw [hoption, h]
  rfl

theorem Decoder.option_ofJson {α : Type} {decode : Decoder α} {o : Origin} {v : Json} {x : α}
    (hnull : v ≠ .null) (h : decode o (Doc.ofJson v) = .ok x) :
    decode.option o (Doc.ofJson v) = .ok (some x) := by
  refine option_of_ne_null ?_ h
  cases v with
  | null => exact absurd rfl hnull
  | _ => exact nofun

/-- What is kept of any value that may be left out: nothing if it is `null`. -/
def Json.kept : Json → Option Json
  | .null => none
  | v => some v.normal

/-- Any value that may be left out is read as what is kept of it. -/
theorem Decoder.any_option_ofJson {o : Origin} (v : Json) (h : o.Allows v.depth) :
    Decoder.any.option o (Doc.ofJson v) = .ok v.kept := by
  cases v with
  | null => rfl
  | _ => exact option_ofJson (by simp) (any_ofJson _ o h)

-- ============================================ what members say

variable {o : Origin} {members : List (String × Json)}

/-- What members say of a field: the member of its name is read as the value, or there is no such
member and the value is the default. -/
def Field.Finds {α : Type} (f : Field α) (o : Origin) (members : List (String × Json)) (x : α) :
    Prop :=
  (∃ v, (f.name, v) ∈ members ∧ f.decode o (Doc.ofJson v) = .ok x)
    ∨ f.name ∉ members.map (·.1) ∧ f.absent = some x

namespace Fields

/-- The members complete a draft to values. -/
def Completes (o : Origin) (members : List (String × Json)) :
    {γ δ : Type} → Fields γ δ → δ → γ → Prop
  | _, _, .nil, _, _ => True
  | _, _, .cons f rest, (v, vs), (x, xs) =>
    (match v with
      | some y => y = x ∧ f.name ∉ members.map (·.1)
      | none => f.Finds o members x)
      ∧ rest.Completes o members vs xs

/-- What the members of an object say is what the entries of its document come to. -/
theorem have_of_completes (hkeys : (members.map (·.1)).Nodup) : {γ δ : Type} →
    (fs : Fields γ δ) → {draft : δ} → {xs : γ} → fs.Completes o members draft xs →
      fs.Have o (Doc.entriesOf members) draft xs
  | _, _, .nil, _, _, _ => trivial
  | _, _, .cons f rest, (v, vs), (x, xs), h => by
    refine ⟨?_, have_of_completes hkeys rest h.2⟩
    cases v with
    | some y => exact ⟨h.1.1, Doc.named_entriesOf_eq_nil h.1.2⟩
    | none =>
        rcases h.1 with ⟨w, hw, hread⟩ | ⟨hnone, habsent⟩
        · exact .inr ⟨_, Doc.named_entriesOf hkeys hw, hread⟩
        · exact .inl ⟨Doc.named_entriesOf_eq_nil hnone, habsent⟩

/-- A record is read as what its members say. -/
theorem decode_object {γ δ : Type} (fs : Fields γ δ) (xs : γ) (hnames : fs.names.Nodup)
    (name : String) {inner : Origin} (hinner : o.enter = .ok inner)
    (hkeys : (members.map (·.1)).Nodup)
    (h : fs.Completes inner members fs.blank xs) :
    fs.decode name o (Doc.ofJson (.object members)) = .ok xs := by
  have hskip : ∀ e ∈ Doc.entriesOf members, e.2.skip = .ok () :=
    List.forall_mem_map.2 fun m _ => Doc.skip_ofJson m.2
  rw [Doc.ofJson, Doc.ofMembers_eq_ofEntries]
  exact decode_entries fs xs hnames name hinner hskip (fs.have_of_completes hkeys h)

-- ============================================ members that were read before

/-- Only which members there are matters, not their order. -/
theorem completes_congr {others : List (String × Json)} (h : members.Perm others) :
    {γ δ : Type} → (fs : Fields γ δ) → {draft : δ} → {xs : γ} →
      fs.Completes o members draft xs → fs.Completes o others draft xs
  | _, _, .nil, _, _, _ => trivial
  | _, _, .cons f rest, (v, vs), (x, xs), hc => by
    have hkeys : f.name ∈ members.map (·.1) ↔ f.name ∈ others.map (·.1) := (h.map _).mem_iff
    refine ⟨?_, completes_congr h rest hc.2⟩
    cases v with
    | some y => exact ⟨hc.1.1, fun hm => hc.1.2 (hkeys.2 hm)⟩
    | none =>
        rcases hc.1 with ⟨u, hu, hread⟩ | ⟨hnone, habsent⟩
        · exact .inl ⟨u, h.mem_iff.1 hu, hread⟩
        · exact .inr ⟨fun hm => hnone (hkeys.2 hm), habsent⟩

/-- So a record can be read from an object that was read as any value before. -/
theorem decode_normal {γ δ : Type} {fs : Fields γ δ} (hnames : fs.names.Nodup) (name : String)
    {inner : Origin} (hinner : o.enter = .ok inner) (hkeys : (members.map (·.1)).Nodup) {xs : γ}
    (h : fs.Completes inner (Json.normalMembers members) fs.blank xs) :
    fs.decode name o (Doc.ofJson (Json.object members).normal) = .ok xs := by
  have hkeys' : ((Json.normalMembers members).map (·.1)).Nodup := by
    rwa [Json.keys_normalMembers]
  obtain ⟨sorted, hsorted, hperm⟩ := Json.ofMembers_perm hkeys'
  rw [Json.normal, hsorted]
  exact decode_object fs xs hnames name hinner ((hperm.map _).symm.nodup hkeys')
    (completes_congr hperm.symm fs h)

end Fields

-- ============================================ records from values

/-- The members say of all fields what their values are. -/
def Fields.Find (members : List (String × Json)) : {γ δ : Type} → Fields γ δ → γ → Prop
  | _, _, .nil, _ => True
  | _, _, .cons f rest, (x, xs) =>
    f.Finds .value (Json.normalMembers members) x ∧ rest.Find members xs

theorem Fields.find_cons {α γ δ : Type} {f : Field α} {rest : Fields γ δ} {x : α} {xs : γ}
    (h : f.Finds .value (Json.normalMembers members) x) (hrest : rest.Find members xs) :
    (cons f rest).Find members (x, xs) := ⟨h, hrest⟩

theorem Fields.completes_blank : {γ δ : Type} → (fs : Fields γ δ) → {xs : γ} →
    fs.Find members xs → fs.Completes .value (Json.normalMembers members) fs.blank xs
  | _, _, .nil, _, _ => trivial
  | _, _, .cons _ rest, (_, _), h => ⟨h.1, completes_blank rest h.2⟩

/-- A record is read from a value that was read before as what its members say. -/
theorem Fields.decodeValue_normal {γ δ : Type} {fs : Fields γ δ} (name : String)
    (hnames : fs.names.Nodup) (hkeys : (members.map (·.1)).Nodup) {xs : γ}
    (h : fs.Find members xs) :
    decodeValue (fs.decode name) (Json.object members).normal = .ok xs :=
  decode_normal hnames name rfl hkeys (fs.completes_blank h)

/-- A required field is found in its member. -/
theorem Field.finds_required {α : Type} {name : String} {decode : Decoder α} {v : Json} {x : α}
    (hmem : (name, v) ∈ members) (hread : decodeValue decode v.normal = .ok x) :
    (Field.required name decode).Finds .value (Json.normalMembers members) x :=
  .inl ⟨v.normal, Json.mem_normalMembers hmem, hread⟩

/-- An optional field is found in its member, or there is none. -/
theorem Field.finds_optional {α : Type} {name : String} {decode : Decoder α}
    (value : Option Json) {x : Option α} (hmem : ∀ v, (name, v) ∈ members ↔ value = some v)
    (hread : ∀ v, value = some v → decodeValue decode.option v.normal = .ok x)
    (hnone : value = none → x = none) :
    (Field.optional name decode).Finds .value (Json.normalMembers members) x := by
  cases value with
  | some v => exact .inl ⟨v.normal, Json.mem_normalMembers ((hmem v).2 rfl), hread v rfl⟩
  | none =>
      rw [hnone rfl]
      refine .inr ⟨?_, rfl⟩
      rw [Json.keys_normalMembers]
      intro hkey
      obtain ⟨⟨k, v⟩, hm, rfl⟩ := List.mem_map.1 hkey
      exact absurd ((hmem v).1 hm) (by simp)

end CallExplorer
