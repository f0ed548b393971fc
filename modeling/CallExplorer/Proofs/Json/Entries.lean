/-
Records from documents.

The members of an object stand in a document in the order in which they were written, and among
them may be some that nobody asks for, as many and as often as one likes. A record asks for members
by name and passes over the others. So of all members only those of a name matter to the field of
that name (`Doc.named`): there is one, and the field has what is read from it; or there is none, and
the field has its default.

# Reading into a draft

A record is read member by member into a draft. The induction is on the members still to be read,
and `Fields.Have` is what it carries. A field that is settled in the draft has no member to come,
and any other is settled by the members to come.
-/
import CallExplorer.Json.Record
import CallExplorer.Proofs.Json.Normal

namespace CallExplorer

variable {α : Type} {o inner : Origin} {k key : String} {d : Doc .value}
  {es : List (String × Doc .value)}

-- ============================================ pieces from lists

namespace Doc

/-- The members of an object with their keys, up to its end. -/
def ofEntries : List (String × Doc .value) → Doc .members
  | [] => .noMembers
  | (k, d) :: rest => .member (.ok k) d (ofEntries rest)

/-- The items of an array, up to its end. -/
def ofDocs : List (Doc .value) → Doc .items
  | [] => .noItems
  | d :: rest => .item d (ofDocs rest)

/-- How many arrays and objects are open at once, at most. -/
def depth : {p : Part} → Doc p → Nat
  | _, .array items => items.depth + 1
  | _, .object members => members.depth + 1
  | _, .item head rest => max head.depth rest.depth
  | _, .member _ value rest => max value.depth rest.depth
  | _, .null => 0
  | _, .bool _ => 0
  | _, .number _ => 0
  | _, .text _ => 0
  | _, .noItems => 0
  | _, .noMembers => 0
  | _, .broken _ _ => 0

mutual

theorem depth_ofJson : (v : Json) → (ofJson v).depth = v.depth
  | .null => rfl
  | .bool _ => rfl
  | .int _ => rfl
  | .float _ => rfl
  | .text _ => rfl
  | .array items => congrArg (· + 1) (depth_ofItems items)
  | .object members => congrArg (· + 1) (depth_ofMembers members)

theorem depth_ofItems : (items : List Json) → (ofItems items).depth = Json.depthItems items
  | [] => rfl
  | v :: rest => by rw [ofItems, depth, depth_ofJson v, depth_ofItems rest, Json.depthItems]

theorem depth_ofMembers :
    (members : List (String × Json)) → (ofMembers members).depth = Json.depthMembers members
  | [] => rfl
  | (_, v) :: rest => by
    rw [ofMembers, depth, depth_ofJson v, depth_ofMembers rest, Json.depthMembers]

end

/-- Nothing stands in the way of decoding a piece or of passing over it: it is well formed and does
not nest too deeply. -/
structure Fits {p : Part} (d : Doc p) (o : Origin) : Prop where
  allowed : o.Allows d.depth
  skipped : d.skip = .ok ()

theorem ok_of_skip {x y : Except SyntaxError Unit} (h : (do x; y) = .ok ()) :
    x = .ok () ∧ y = .ok () := by
  cases x with
  | error e => cases h
  | ok u => exact ⟨rfl, h⟩

/-- An array that fits can be opened, and its items fit then. -/
theorem Fits.docs {ds : List (Doc .value)} (h : (array (ofDocs ds)).Fits o) :
    ∃ inner, o.enter = .ok inner ∧ ∀ d ∈ ds, d.Fits inner := by
  obtain ⟨hallowed, hskipped⟩ := h
  obtain ⟨inner, henter, hinner⟩ := Origin.Allows.enter hallowed
  refine ⟨inner, henter, ?_⟩
  have hskip : (ofDocs ds).skip = .ok () := hskipped
  clear hskipped hallowed
  induction ds with
  | nil => exact List.forall_mem_nil _
  | cons d rest ih =>
      obtain ⟨hd, hrest⟩ := ok_of_skip hskip
      refine List.forall_mem_cons.2 ⟨⟨hinner.mono (Nat.le_max_left _ _), hd⟩, ?_⟩
      exact ih (hinner.mono (Nat.le_max_right _ _)) hrest

/-- An object that fits can be opened, and the values of its members fit then. -/
theorem Fits.entries (h : (object (ofEntries es)).Fits o) :
    ∃ inner, o.enter = .ok inner ∧ ∀ e ∈ es, e.2.Fits inner := by
  obtain ⟨hallowed, hskipped⟩ := h
  obtain ⟨inner, henter, hinner⟩ := Origin.Allows.enter hallowed
  refine ⟨inner, henter, ?_⟩
  have hskip : (ofEntries es).skip = .ok () := hskipped
  clear hskipped hallowed
  induction es with
  | nil => exact List.forall_mem_nil _
  | cons e rest ih =>
      obtain ⟨hd, hrest⟩ := ok_of_skip hskip
      refine List.forall_mem_cons.2 ⟨⟨hinner.mono (Nat.le_max_left _ _), hd⟩, ?_⟩
      exact ih (hinner.mono (Nat.le_max_right _ _)) hrest

-- ============================================ members by name

/-- The values of the members with a name, in order. -/
def named (key : String) (es : List (String × Doc .value)) : List (Doc .value) :=
  (es.filter (·.1 = key)).map (·.2)

theorem named_cons_self (key : String) (d : Doc .value) (es : List (String × Doc .value)) :
    named key ((key, d) :: es) = d :: named key es := by
  unfold named
  rw [List.filter_cons_of_pos (by simp), List.map_cons]

theorem named_cons_of_ne (h : k ≠ key) (d : Doc .value) (es : List (String × Doc .value)) :
    named key ((k, d) :: es) = named key es := by
  unfold named
  rw [List.filter_cons_of_neg (by simpa using h)]

theorem named_eq_nil_iff : named key es = [] ↔ key ∉ es.map (·.1) := by
  unfold named
  rw [List.map_eq_nil_iff, List.filter_eq_nil_iff, List.mem_map]
  constructor
  · intro hnone
    rintro ⟨e, he, rfl⟩
    exact hnone e he (by simp)
  · intro hnone e he hkey
    exact hnone ⟨e, he, of_decide_eq_true hkey⟩

theorem mem_of_named (h : named key es = [d]) : (key, d) ∈ es := by
  have hmem : d ∈ named key es := by
    rw [h]
    exact List.mem_singleton_self d
  obtain ⟨⟨k, d'⟩, hfiltered, rfl⟩ := List.mem_map.1 hmem
  obtain ⟨he, hk⟩ := List.mem_filter.1 hfiltered
  have hkey : k = key := of_decide_eq_true hk
  rw [← hkey]
  exact he

end Doc

open Doc (ofEntries ofDocs named)

-- ============================================ what a field has

/-- What a field comes to, given its place in the draft and the members to come. -/
def Field.Has (f : Field α) (o : Origin) (es : List (String × Doc .value)) (draft : Option α)
    (x : α) : Prop :=
  match draft with
  | some y => y = x ∧ named f.name es = []
  | none => (named f.name es = [] ∧ f.absent = some x)
    ∨ ∃ d, named f.name es = [d] ∧ f.decode o d = .ok x

namespace Field

variable {f : Field α} {draft : Option α} {x : α}

/-- Where no members are left the field is settled. -/
theorem Has.or_absent (h : f.Has o [] draft x) : draft.or f.absent = some x := by
  cases draft with
  | some y =>
      rw [h.1]
      rfl
  | none =>
      rcases h with ⟨-, habsent⟩ | ⟨d, hd, -⟩
      · exact habsent
      · cases hd

/-- A member with another name does not matter. -/
theorem Has.of_other (h : f.Has o ((k, d) :: es) draft x) (hk : k ≠ f.name) :
    f.Has o es draft x := by
  unfold Has at h ⊢
  rwa [Doc.named_cons_of_ne hk] at h

/-- A member with the name is the only one, and it settles the field. -/
theorem Has.of_self (h : f.Has o ((f.name, d) :: es) draft x) :
    draft = none ∧ f.decode o d = .ok x ∧ f.Has o es (some x) x := by
  unfold Has at h
  rw [Doc.named_cons_self] at h
  cases draft with
  | some y => cases h.2
  | none =>
      rcases h with ⟨hnone, -⟩ | ⟨d', hd, hread⟩
      · cases hnone
      · obtain ⟨rfl, hrest⟩ := List.cons.inj hd
        exact ⟨rfl, hread, rfl, hrest⟩

end Field

-- ============================================ what the fields of a record have

namespace Fields

/-- The names of the fields, in the order of declaration. -/
def names : {γ δ : Type} → Fields γ δ → List String
  | _, _, .nil => []
  | _, _, .cons f rest => f.name :: rest.names

/-- What the fields come to, given a draft and the members to come. -/
def Have (o : Origin) (es : List (String × Doc .value)) :
    {γ δ : Type} → Fields γ δ → δ → γ → Prop
  | _, _, .nil, _, _ => True
  | _, _, .cons f rest, (v, vs), (x, xs) => f.Has o es v x ∧ rest.Have o es vs xs

/-- Where no members are left, the draft is complete. -/
theorem finish_eq : {γ δ : Type} → (fs : Fields γ δ) → {draft : δ} → {xs : γ} →
    fs.Have o [] draft xs → fs.finish draft = .ok xs
  | _, _, .nil, _, (), _ => rfl
  | _, _, .cons f rest, (v, vs), (x, xs), h => by
    rw [finish]
    simp only [h.1.or_absent]
    show (rest.finish vs).bind _ = _
    rw [finish_eq rest h.2]
    rfl

theorem fill_cons {α γ δ : Type} (f : Field α) (rest : Fields γ δ) (k : String) (d : Doc .value)
    (v : Option α) (vs : δ) :
    (cons f rest).fill o k d (v, vs)
      = if f.name = k then
          some <|
            match v with
            | some _ => .error (.duplicate f.name)
            | none => (f.decode o d).map fun x => (some x, vs)
        else (rest.fill o k d vs).map fun r => r.map fun vs => (v, vs) := rfl

theorem fromMembers_cons {γ δ : Type} (fs : Fields γ δ) (k : String) (d : Doc .value)
    (rest : Doc .members) (draft : δ) :
    fs.fromMembers o (.member (.ok k) d rest) draft
      = match fs.fill o k d draft with
        | some r => r.bind fun draft => fs.fromMembers o rest draft
        | none => (Doc.ofSyntax d.skip).bind fun _ => fs.fromMembers o rest draft := by
  rw [fromMembers]
  show (match fs.fill o k d draft with
    | some r => r >>= fun draft => fs.fromMembers o rest draft
    | none => Doc.ofSyntax d.skip >>= fun _ => fs.fromMembers o rest draft) = _
  cases fs.fill o k d draft <;> rfl

/-- A member that no field asks for is not read. -/
theorem fill_other : {γ δ : Type} → (fs : Fields γ δ) → (draft : δ) → k ∉ fs.names →
    fs.fill o k d draft = none
  | _, _, .nil, _, _ => rfl
  | _, _, .cons f rest, (v, vs), h => by
    rw [names, List.mem_cons, not_or] at h
    rw [fill_cons, if_neg (Ne.symm h.1), fill_other rest vs h.2]
    rfl

theorem Have.of_other : {γ δ : Type} → {fs : Fields γ δ} → {draft : δ} → {xs : γ} →
    fs.Have o ((k, d) :: es) draft xs → k ∉ fs.names → fs.Have o es draft xs
  | _, _, .nil, _, _, _, _ => trivial
  | _, _, .cons f rest, (_, _), (_, _), h, hk => by
    rw [names, List.mem_cons, not_or] at hk
    exact ⟨h.1.of_other hk.1, h.2.of_other hk.2⟩

/-- A member that a field asks for settles that field. -/
theorem fill_have : {γ δ : Type} → (fs : Fields γ δ) → {draft : δ} → {xs : γ} → fs.names.Nodup →
    k ∈ fs.names → fs.Have o ((k, d) :: es) draft xs →
      ∃ draft', fs.fill o k d draft = some (.ok draft') ∧ fs.Have o es draft' xs
  | _, _, .nil, _, _, _, hmem, _ => by cases hmem
  | _, _, .cons f rest, (w, ws), (x, xs), hnames, hmem, h => by
    rw [names, List.nodup_cons] at hnames
    by_cases hname : f.name = k
    · subst hname
      obtain ⟨rfl, hread, hsettled⟩ := h.1.of_self
      refine ⟨(some x, ws), ?_, hsettled, h.2.of_other hnames.1⟩
      rw [fill_cons, if_pos rfl, hread]
      rfl
    · have hrest : k ∈ rest.names := by
        rw [names, List.mem_cons] at hmem
        exact hmem.resolve_left (Ne.symm hname)
      obtain ⟨ws', hfill, hhave⟩ := fill_have rest hnames.2 hrest h.2
      refine ⟨(w, ws'), ?_, h.1.of_other (Ne.symm hname), hhave⟩
      rw [fill_cons, if_neg hname, hfill]
      rfl

/-- Members are read into a draft that is complete. -/
theorem fromMembers_have {γ δ : Type} {fs : Fields γ δ} (hnames : fs.names.Nodup) {xs : γ}
    (hskip : ∀ e ∈ es, e.2.skip = .ok ()) :
    ∀ {draft : δ}, fs.Have o es draft xs →
      ∃ draft', fs.fromMembers o (ofEntries es) draft = .ok draft' ∧ fs.Have o [] draft' xs := by
  induction es with
  | nil =>
      intro draft h
      refine ⟨draft, ?_, h⟩
      rw [ofEntries, fromMembers]
  | cons e rest ih =>
      obtain ⟨k, d⟩ := e
      rw [List.forall_mem_cons] at hskip
      intro draft h
      by_cases hk : k ∈ fs.names
      · obtain ⟨draft₁, hfill, hhave⟩ := fill_have fs hnames hk h
        obtain ⟨draft', hread, hcomplete⟩ := ih hskip.2 hhave
        refine ⟨draft', ?_, hcomplete⟩
        rw [ofEntries, fromMembers_cons, hfill]
        exact hread
      · obtain ⟨draft', hread, hcomplete⟩ := ih hskip.2 (h.of_other hk)
        refine ⟨draft', ?_, hcomplete⟩
        rw [ofEntries, fromMembers_cons, fill_other fs draft hk, hskip.1]
        exact hread

/-- A record is read as what its fields come to. -/
theorem decode_entries {γ δ : Type} (fs : Fields γ δ) (xs : γ) (hnames : fs.names.Nodup)
    (name : String) (henter : o.enter = .ok inner) (hskip : ∀ e ∈ es, e.2.skip = .ok ())
    (h : fs.Have inner es fs.blank xs) :
    fs.decode name o (.object (ofEntries es)) = .ok xs := by
  obtain ⟨draft, hread, hcomplete⟩ := fromMembers_have hnames hskip h
  rw [decode, henter]
  show (fs.fromMembers inner (ofEntries es) fs.blank).bind _ = _
  rw [hread]
  exact finish_eq fs hcomplete

end Fields

end CallExplorer
