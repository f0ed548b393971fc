/-
Records in JSON.

A record is written as an object with its fields as members, in any order and
among others that are skipped, or as an array of its fields in the order of their
declaration. In an object no field may come twice, and one that is missing is
complained of at the end, the first in the order of declaration. In an array no
field may be missing, except at the end those with a default.
-/
import CallExplorer.Json.Decoder

namespace CallExplorer

/-- A field: its name, how its value is read, what it is when an object has no such
member, and whether an array may end before it. -/
structure Field (α : Type) where
  name : String
  decode : Decoder α
  absent : Option α
  mayEnd : Bool

namespace Field

/-- A field that must be there. -/
def required {α : Type} (name : String) (decode : Decoder α) : Field α :=
  ⟨name, decode, none, false⟩

/-- A field that may be missing from an object, or `null`. -/
def optional {α : Type} (name : String) (decode : Decoder α) : Field (Option α) :=
  ⟨name, decode.option, some none, false⟩

/-- A field with a default, which an array may end before. -/
def defaulted {α : Type} (name : String) (decode : Decoder α) (default : α) : Field α :=
  ⟨name, decode, some default, true⟩

end Field

/-- The fields of a record in the order of their declaration. `γ` is the type of their
values, `δ` the type of a draft: the values found so far. -/
inductive Fields : (γ δ : Type) → Type 1 where
  | nil : Fields Unit Unit
  | cons {α β δ : Type} (head : Field α) (rest : Fields β δ) : Fields (α × β) (Option α × δ)

namespace Fields

/-- The number of fields. -/
def count : {γ δ : Type} → Fields γ δ → Nat
  | _, _, .nil => 0
  | _, _, .cons _ rest => rest.count + 1

/-- No field found yet. -/
def blank : {γ δ : Type} → Fields γ δ → δ
  | _, _, .nil => ()
  | _, _, .cons _ rest => (none, rest.blank)

/-- Reads the member with the key into the draft; nothing if no field has that name. -/
def fill (o : Origin) (key : String) (value : Doc .value) :
    {γ δ : Type} → Fields γ δ → δ → Option (Except DecodeError δ)
  | _, _, .nil, _ => none
  | _, _, .cons f rest, (v, vs) =>
    if f.name = key then
      some <|
        match v with
        | some _ => .error (.duplicate f.name)
        | none => (f.decode o value).map fun x => (some x, vs)
    else (fill o key value rest vs).map fun r => r.map fun vs => (v, vs)

/-- The values of a draft; a field that is neither found nor optional is missing. -/
def finish : {γ δ : Type} → Fields γ δ → δ → Except DecodeError γ
  | _, _, .nil, _ => .ok ()
  | _, _, .cons f rest, (v, vs) => do
    let x ←
      match v.or f.absent with
      | some x => .ok x
      | none => .error (.missing f.name)
    let xs ← rest.finish vs
    .ok (x, xs)

/-- Reads the members of an object into a draft. -/
def fromMembers {γ δ : Type} (fs : Fields γ δ) (o : Origin) :
    Doc .members → δ → Except DecodeError δ
  | .noMembers, draft => .ok draft
  | .member key value rest, draft => do
    let k ← Doc.ofSyntax key
    match fs.fill o k value draft with
    | some r => do
      let draft ← r
      fs.fromMembers o rest draft
    | none => do
      Doc.ofSyntax value.skip
      fs.fromMembers o rest draft
  | .broken whenRead _, _ => .error (.malformed whenRead)

/-- Reads the items of an array, of which `given` were read before, and gives what is left. -/
def fromItems (o : Origin) (name : String) (total : Nat) :
    {γ δ : Type} → Fields γ δ → (given : Nat) → Doc .items → Except DecodeError (γ × Doc .items)
  | _, _, .nil, _, ds => .ok ((), ds)
  | _, _, .cons f rest, given, .item d ds => do
    let x ← f.decode o d
    let (xs, left) ← fromItems o name total rest (given + 1) ds
    .ok ((x, xs), left)
  | _, _, .cons f rest, given, .noItems =>
    match f.mayEnd, f.absent with
    | true, some x => do
      let (xs, left) ← fromItems o name total rest given .noItems
      .ok ((x, xs), left)
    | _, _ => .error (.tooFew given name total)
  | _, _, .cons _ _, _, .broken whenRead _ => .error (.malformed whenRead)

/-- The number of items. -/
def itemCount : Doc .items → Nat
  | .item _ rest => itemCount rest + 1
  | .noItems => 0
  | .broken _ _ => 0

/-- Checks that an array ends after the fields. In a text that is all that is seen. -/
def checkEnd (o : Origin) (all : Doc .items) : Doc .items → Except DecodeError Unit
  | .noItems => .ok ()
  | .item _ _ =>
    match o with
    | .text _ => .error (.malformed .trailingCharacters)
    | .value => .error (.tooMany (itemCount all))
  | .broken whenRead _ =>
    if whenRead = .trailingComma ∨ whenRead = .endOfArray then .error (.malformed whenRead)
    else .error (.malformed .trailingCharacters)

/-- Reads a record. -/
def decode {γ δ : Type} (name : String) (fs : Fields γ δ) : Decoder γ
  | o, .object ms => do
    let draft ← fs.fromMembers (← o.enter) ms fs.blank
    fs.finish draft
  | o, .array ds => do
    let (x, left) ← fromItems (← o.enter) name fs.count fs 0 ds
    checkEnd o ds left
    .ok x
  | _, d => Doc.reject (.record name) d

end Fields

namespace Decoder

/-- Applies a function to what is read. -/
def map {α β : Type} (f : α → β) (decode : Decoder α) : Decoder β := fun o d => (decode o d).map f

end Decoder

end CallExplorer
