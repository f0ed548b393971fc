/-
Values and their documents.

One value has many documents: its members may stand in any order, among others that nobody asks
for, and some of them may be left out. A `Writing` says which documents stand for which value
without a word about reading, and a decoder reads a writing if it gets each value back from all of
its documents (`Decoder.Reads`).

Writings are put together as decoders are, and the lemmas follow them. For a record it is decisive
that a member is known by its name alone (`Writing.Member`). So nothing has to be said about the
order of members or about members that no field asks for.

The last section goes on to texts. A document that has a text is well formed, so that no part of it
stands in the way of passing over it.
-/
import Mathlib.Data.List.Forall2
import CallExplorer.Proofs.Json.Reading
import CallExplorer.Proofs.Json.Sources
import CallExplorer.Proofs.Symbol.Wire

namespace CallExplorer

open Doc (ofEntries ofDocs named)

/-- A way to write values: which documents stand for which value. -/
abbrev Writing (α : Type) := α → Doc .value → Prop

-- ============================================ writings

namespace Writing

variable {α : Type}

/-- Strings. -/
def text : Writing String := fun s d => d = .text (.ok s)

/-- Whole numbers. -/
def whole (toInt : α → Int) : Writing α := fun x d => d = .number (.ok (.int (toInt x)))

/-- URI references, written as strings. -/
def uri : Writing Uri := fun u => text u.text

/-- Any value that is kept with the members of its objects in the order of their keys. They may
have been written in another order. -/
def data : Writing Json := fun v d => ∃ w, d = .ofJson w ∧ w.normal = v

/-- Values that may be missing. `null` stands for a missing one, and never for one that is there. -/
def orNull (W : Writing α) : Writing (Option α)
  | none, d => d = .null
  | some x, d => d ≠ .null ∧ W x d

/-- Arrays. -/
def list (W : Writing α) : Writing (List α) := fun xs d =>
  ∃ ds, d = .array (ofDocs ds) ∧ List.Forall₂ W xs ds

/-- Objects with keys of all kinds, which are kept in the order of their keys and may have been
written in any other. -/
def dictionary (W : Writing α) : Writing (List (String × α)) := fun ms d =>
  Json.InOrder ms ∧ ∃ es written, d = .object (ofEntries es) ∧ written.Perm ms
    ∧ List.Forall₂ (fun m e => m.1 = e.1 ∧ W m.2 e.2) written es

/-- Objects whose members say the value. -/
def object (Said : α → List (String × Doc .value) → Prop) : Writing α := fun x d =>
  ∃ es, d = .object (ofEntries es) ∧ Said x es

/-- There is one member with the name, and it stands for the value. Of others nothing is said. -/
def Member (W : Writing α) (es : List (String × Doc .value)) (name : String) (x : α) : Prop :=
  ∃ d, named name es = [d] ∧ W x d

/-- There is one member with the name, or there is none and the value is the default. -/
def MemberOr (W : Writing α) (es : List (String × Doc .value)) (name : String) (default x : α) :
    Prop :=
  (named name es = [] ∧ x = default) ∨ W.Member es name x

-- Documents of values are documents like all others.

theorem object_ofJson {Said : α → List (String × Doc .value) → Prop}
    {members : List (String × Json)} {x : α} (h : Said x (Doc.entriesOf members)) :
    object Said x (.ofJson (.object members)) :=
  ⟨_, congrArg Doc.object (Doc.ofMembers_eq_ofEntries members), h⟩

theorem list_ofJson {W : Writing α} {xs : List α} {items : List Json}
    (h : List.Forall₂ (fun x v => W x (.ofJson v)) xs items) :
    W.list xs (.ofJson (.array items)) :=
  ⟨items.map .ofJson, congrArg Doc.array (Doc.ofItems_eq_ofDocs items),
    List.forall₂_map_right_iff.2 h⟩

theorem dictionary_ofJson {W : Writing α} {ms written : List (String × α)}
    {members : List (String × Json)} (horder : Json.InOrder ms) (hperm : written.Perm ms)
    (h : List.Forall₂ (fun m n => m.1 = n.1 ∧ W m.2 (.ofJson n.2)) written members) :
    W.dictionary ms (.ofJson (.object members)) :=
  ⟨horder, Doc.entriesOf members, written, congrArg Doc.object (Doc.ofMembers_eq_ofEntries members),
    hperm, List.forall₂_map_right_iff.2 h⟩

end Writing

-- ============================================ reading single values

/-- A decoder gets each value back from all its documents, wherever they fit. -/
def Decoder.Reads {α : Type} (decode : Decoder α) (W : Writing α) : Prop :=
  ∀ ⦃x : α⦄ ⦃d : Doc .value⦄ ⦃o : Origin⦄, W x d → d.Fits o → decode o d = .ok x

namespace Decoder

variable {α : Type} {decode : Decoder α} {W : Writing α}

theorem reads_text : text.Reads .text := by
  intro s d o hd _
  rw [hd]
  rfl

/-- A whole number is read in a text as in a value. -/
theorem integer_eq_decodeValue {wanted : Wanted} {fits : Int → Bool} {make : Int → α} (o : Origin)
    (n : Int) : integer wanted fits make o (.number (.ok (.int n)))
      = decodeValue (integer wanted fits make) (.int n) := rfl

theorem reads_u32 : u32.Reads (.whole fun n => n.toNat) := by
  intro n d o hd _
  rw [hd]
  exact (integer_eq_decodeValue o _).trans (decode_u32 n)

theorem reads_i32 : i32.Reads (.whole Int32.toInt) := by
  intro n d o hd _
  rw [hd]
  exact (integer_eq_decodeValue o _).trans (decode_i32 n)

theorem reads_uri : uri.Reads .uri := by
  intro u d o hd _
  rw [hd]
  exact decode_uri u

theorem reads_any : any.Reads .data := by
  intro v d o hd hfits
  obtain ⟨w, rfl, rfl⟩ := hd
  have hallowed := hfits.allowed
  rw [Doc.depth_ofJson] at hallowed
  exact any_ofJson w o hallowed

theorem Reads.option (h : decode.Reads W) : decode.option.Reads W.orNull := by
  intro x d o hd hfits
  cases x with
  | none =>
      obtain rfl := hd
      rfl
  | some x => exact option_of_ne_null hd.1 (h hd.2 hfits)

-- ============================================ reading many values

theorem items_ofDocs {read : Doc .value → Except DecodeError α} {xs : List α}
    {ds : List (Doc .value)} (h : List.Forall₂ (fun x d => read d = .ok x) xs ds) :
    items read (ofDocs ds) = .ok xs := by
  induction h with
  | nil => rw [ofDocs, items]
  | cons hx _ ih =>
      rw [ofDocs, items, hx]
      show (items read _).bind _ = _
      rw [ih]
      rfl

/-- Arrays are read if their items are. -/
theorem Reads.list (h : decode.Reads W) : decode.list.Reads W.list := by
  intro xs d o hd hfits
  obtain ⟨ds, rfl, hwritten⟩ := hd
  obtain ⟨inner, henter, hinner⟩ := hfits.docs
  have hread : List.Forall₂ (fun x d => decode inner d = .ok x) xs ds := by
    refine List.forall₂_iff_get.2 ⟨hwritten.length_eq, fun i hx hd => ?_⟩
    exact h (hwritten.get hx hd) (hinner _ (List.get_mem _ _))
  rw [Decoder.list, henter]
  exact items_ofDocs hread

theorem members_ofEntries {read : Doc .value → Except DecodeError α} {ms : List (String × α)}
    {es : List (String × Doc .value)}
    (h : List.Forall₂ (fun m e => m.1 = e.1 ∧ read e.2 = .ok m.2) ms es) :
    members read (ofEntries es) = .ok ms := by
  induction h with
  | nil => rw [ofEntries, members]
  | @cons m e ms es hm _ ih =>
      obtain ⟨k, x⟩ := m
      obtain ⟨k', d⟩ := e
      obtain ⟨rfl, hread⟩ := hm
      rw [ofEntries, members]
      show (read d).bind _ = _
      rw [hread]
      show (members read _).bind _ = _
      rw [ih]
      rfl

/-- Objects with keys of all kinds are read if their members are, and their members come into the
order of their keys. -/
theorem Reads.dictionary (h : decode.Reads W) : decode.dictionary.Reads W.dictionary := by
  intro ms d o hd hfits
  obtain ⟨horder, es, written, rfl, hperm, hwritten⟩ := hd
  obtain ⟨inner, henter, hinner⟩ := hfits.entries
  have hread : List.Forall₂ (fun m e => m.1 = e.1 ∧ decode inner e.2 = .ok m.2) written es := by
    refine List.forall₂_iff_get.2 ⟨hwritten.length_eq, fun i hm he => ?_⟩
    obtain ⟨hkey, hvalue⟩ := hwritten.get hm he
    exact ⟨hkey, h hvalue (hinner _ (List.get_mem _ _))⟩
  rw [Decoder.dictionary, henter]
  show (members (decode inner) _).bind _ = _
  rw [members_ofEntries hread]
  exact congrArg _ (Json.foldl_insert_of_perm horder hperm)

end Decoder

-- ============================================ reading records

section Records

variable {α β γ δ : Type} {W : Writing α} {es : List (String × Doc .value)} {inner : Origin}

/-- A field is read from the member of its name. -/
theorem Field.has_of_member {f : Field α} (hreads : f.decode.Reads W)
    (hinner : ∀ e ∈ es, e.2.Fits inner) {x : α} (h : W.Member es f.name x) :
    f.Has inner es none x := by
  obtain ⟨d, hd, hx⟩ := h
  exact .inr ⟨d, hd, hreads hx (hinner _ (Doc.mem_of_named hd))⟩

/-- A field with a default need not have a member. -/
theorem Field.has_of_memberOr {f : Field α} (hreads : f.decode.Reads W)
    (hinner : ∀ e ∈ es, e.2.Fits inner) {default x : α} (habsent : f.absent = some default)
    (h : W.MemberOr es f.name default x) : f.Has inner es none x := by
  rcases h with ⟨hnone, rfl⟩ | hmember
  · exact .inl ⟨hnone, habsent⟩
  · exact has_of_member hreads hinner hmember

/-- A record is read from objects whose members say what its fields come to. -/
theorem Fields.reads_object {fs : Fields γ δ} {make : γ → β}
    {Said : β → List (String × Doc .value) → Prop} (name : String) (hnames : fs.names.Nodup)
    (h : ∀ {x es inner}, Said x es → (∀ e ∈ es, e.2.Fits inner) →
      ∃ xs, make xs = x ∧ fs.Have inner es fs.blank xs) :
    ((fs.decode name).map make).Reads (.object Said) := by
  intro x d o hd hfits
  obtain ⟨es, rfl, hsaid⟩ := hd
  obtain ⟨inner, henter, hinner⟩ := hfits.entries
  obtain ⟨xs, rfl, hhave⟩ := h hsaid hinner
  have hskip : ∀ e ∈ es, e.2.skip = .ok () := fun e he => (hinner e he).skipped
  rw [Decoder.map, fs.decode_entries xs hnames name henter hskip hhave]
  rfl

end Records

-- ============================================ reading texts

/-- A piece of a document that has a text is well formed. -/
theorem Doc.Written.skip_eq_ok {first : Bool} {p : Part} {d : Doc p} {bs : List UInt8}
    (h : Written first d bs) : d.skip = .ok () := by
  induction h with
  | blank _ _ ih => exact ih
  | null => rfl
  | boolTrue => rfl
  | boolFalse => rfl
  | negative _ _ => rfl
  | positive _ _ => rfl
  | text _ => rfl
  | array _ ih => exact ih
  | object _ ih => exact ih
  | noItems => rfl
  | firstItem _ _ ihv ihrest =>
      rw [skip, ihv]
      exact ihrest
  | nextItem _ _ ihv ihrest =>
      rw [skip, ihv]
      exact ihrest
  | noMembers => rfl
  | firstMember _ _ _ _ ihv ihrest =>
      rw [skip, ihv]
      exact ihrest
  | nextMember _ _ _ _ _ ihv ihrest =>
      rw [skip, ihv]
      exact ihrest

/-- A text stands for a value: it is a text of one of the value's documents, and no array or object
lies deeper in it than texts may nest. -/
def Writing.IsText {α : Type} (W : Writing α) (x : α) (text : String) : Prop :=
  ∃ d bs sp, W x d ∧ d.depth ≤ maxLevels ∧ Doc.Written true d bs
    ∧ (∀ b ∈ sp, Doc.isSpace b = true) ∧ Text.bytes text = bs ++ sp

/-- What a decoder reads from documents it reads from their texts. -/
theorem Decoder.Reads.decodeText {α : Type} {decode : Decoder α} {W : Writing α}
    (h : decode.Reads W) {x : α} {text : String} (htext : W.IsText x text) :
    CallExplorer.decodeText decode (Text.bytes text) = .ok x := by
  obtain ⟨d, bs, sp, hx, hdepth, hwritten, hsp, heq⟩ := htext
  rw [heq]
  exact decodeText_doc hwritten hsp (h hx ⟨hdepth, hwritten.skip_eq_ok⟩)

end CallExplorer
