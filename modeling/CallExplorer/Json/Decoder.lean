/-
Typed reading of documents.

A decoder walks a document in reading order and stops at the first problem, be it
a syntax error left there by the reader or a value of the wrong type. Documents
come from a text or from a value that was read before; the same decoders serve
both. Only a text has a limit on how deeply arrays and objects may nest, and the
limit counts only what is decoded, not what is skipped.
-/
import CallExplorer.Json.Reader
import CallExplorer.Text.Quoted
import CallExplorer.Uri.Basic

namespace CallExplorer

-- ============================================ complaints

/-- What a decoder finds where it wants something else. -/
inductive Found where
  | null
  | bool (b : Bool)
  | number (n : Number)
  | text (s : String)
  | sequence
  | map
  deriving DecidableEq

/-- What was found, in words. -/
def Found.describe : Found → String
  | .null => "null"
  | .bool b => "boolean `" ++ (if b then "true" else "false") ++ "`"
  | .number (.int n) => "integer `" ++ Text.signedDecimal n ++ "`"
  | .number (.float x) => "floating point `" ++ x.text ++ "`"
  | .text s => "string " ++ Text.quoted s
  | .sequence => "sequence"
  | .map => "map"

/-- What a decoder wants. -/
inductive Wanted where
  | text
  | u32
  | i32
  | i64
  | boolean
  | sequence
  | map
  | unit
  | record (name : String)
  deriving DecidableEq

/-- What is wanted, in words. -/
def Wanted.describe : Wanted → String
  | .text => "a string"
  | .u32 => "u32"
  | .i32 => "i32"
  | .i64 => "i64"
  | .boolean => "a boolean"
  | .sequence => "a sequence"
  | .map => "a map"
  | .unit => "unit"
  | .record name => "struct " ++ name

/-- Why a document does not denote what it should. -/
inductive DecodeError where
  | malformed (e : SyntaxError)
  | wrongType (found : Found) (wanted : Wanted)
  | outOfRange (n : Int) (wanted : Wanted)
  | tooFew (given : Nat) (name : String) (fields : Nat)
  | tooMany (given : Nat)
  | missing (field : String)
  | duplicate (field : String)
  | badUri (e : UriError)
  | unknownVariant (name : String) (known : List String)
  | noVariant (name : String)
  /-- A decoder from elsewhere has its own words for it. -/
  | custom (message : String)
  deriving DecidableEq

/-- The names of variants as a choice. -/
def describeChoice (known : List String) : String :=
  match known with
  | [] => "nothing"
  | [a] => "`" ++ a ++ "`"
  | a :: rest => rest.foldl (fun s b => s ++ " or `" ++ b ++ "`") ("`" ++ a ++ "`")

/-- The complaint in words. -/
def DecodeError.message : DecodeError → String
  | .malformed e => e.message
  | .wrongType found wanted =>
    "invalid type: " ++ found.describe ++ ", expected " ++ wanted.describe
  | .outOfRange n wanted =>
    "invalid value: integer `" ++ Text.signedDecimal n ++ "`, expected " ++ wanted.describe
  | .tooFew given name fields =>
    "invalid length " ++ Text.decimal given ++ ", expected struct " ++ name ++ " with "
      ++ Text.decimal fields ++ (if fields = 1 then " element" else " elements")
  | .tooMany given =>
    "invalid length " ++ Text.decimal given ++ ", expected fewer elements in array"
  | .missing field => "missing field `" ++ field ++ "`"
  | .duplicate field => "duplicate field `" ++ field ++ "`"
  | .badUri e => e.message
  | .unknownVariant name known =>
    "unknown variant `" ++ name ++ "`, expected " ++ describeChoice known
  | .noVariant name => "data did not match any variant of untagged enum " ++ name
  | .custom message => message

-- ============================================ complaints about texts

/-- A place in a text. Lines are counted from 1 on, and line 0 is no place at all. -/
structure TextPlace where
  line : Nat := 0
  column : Nat := 0
  deriving DecidableEq

/-- The place in words, as it stands behind a complaint. -/
def TextPlace.suffix (p : TextPlace) : String :=
  if p.line = 0 then ""
  else " at line " ++ Text.decimal p.line ++ " column " ++ Text.decimal p.column

/-- Finds the place in a text at which reading it stopped with an error. -/
abbrev Locate := DecodeError → List UInt8 → TextPlace

/-- Finds no places. -/
def Locate.nowhere : Locate := fun _ _ => {}

/-- A complaint with the text it is about. A value that was read before has no text any more. -/
structure JsonError where
  error : DecodeError
  text : Option (List UInt8) := none
  deriving DecidableEq

/-- The complaint in words, with the place in the text. -/
def JsonError.message (e : JsonError) (locate : Locate) : String :=
  match e.text with
  | none => e.error.message
  | some bs => e.error.message ++ (locate e.error bs).suffix

-- ============================================ decoders

/-- Where a document comes from: a text, in which so many more arrays and objects may be
opened inside each other, or a value. -/
inductive Origin where
  | text (levels : Nat)
  | value

/-- Arrays and objects of a text that can be open at once. -/
def maxLevels : Nat := 127

/-- Opens an array or an object. -/
def Origin.enter : Origin → Except DecodeError Origin
  | .text 0 => .error (.malformed .tooDeep)
  | .text (levels + 1) => .ok (.text levels)
  | .value => .ok .value

/-- A way to read a document. -/
abbrev Decoder (α : Type) := Origin → Doc .value → Except DecodeError α

namespace Doc

/-- A syntax error as the reason for not decoding. -/
def ofSyntax {α : Type} : Except SyntaxError α → Except DecodeError α
  | .ok a => .ok a
  | .error e => .error (.malformed e)

/-- What stands here instead of what is wanted. Numbers and strings are read in full
before they are rejected, arrays and objects are not. -/
def reject {α : Type} (wanted : Wanted) (d : Doc .value) : Except DecodeError α := do
  let found ←
    match d with
    | .null => .ok .null
    | .bool b => .ok (.bool b)
    | .number n => (ofSyntax n).map .number
    | .text s => (ofSyntax s).map .text
    | .array _ => .ok .sequence
    | .object _ => .ok .map
    | .broken whenRead _ => .error (.malformed whenRead)
  .error (.wrongType found wanted)

end Doc

namespace Decoder

open Doc (ofSyntax reject)

/-- A string. -/
def text : Decoder String
  | _, .text s => ofSyntax s
  | _, d => reject .text d

/-- A whole number that `fits`, as `make` has it. -/
def integer {α : Type} (wanted : Wanted) (fits : Int → Bool) (make : Int → α) : Decoder α
  | _, .number (.ok (.int n)) => if fits n then .ok (make n) else .error (.outOfRange n wanted)
  | _, d => reject wanted d

/-- A whole number from 0 to 2^32-1. -/
def u32 : Decoder UInt32 :=
  integer .u32 (fun n => 0 ≤ n && n < 4294967296) fun n => UInt32.ofNat n.toNat

/-- A whole number from -2^31 to 2^31-1. -/
def i32 : Decoder Int32 := integer .i32 (fun n => -2147483648 ≤ n && n < 2147483648) Int32.ofInt

/-- A whole number from -2^63 to 2^63-1. -/
def i64 : Decoder Int := integer .i64 (fun n => -9223372036854775808 ≤ n && n < 9223372036854775808) id

/-- `null`. -/
def unit : Decoder Unit
  | _, .null => .ok ()
  | _, d => reject .unit d

/-- A URI reference, written as a string. -/
def uri : Decoder Uri := fun o d => do
  let s ← text o d
  match Uri.parse s with
  | .ok u => .ok u
  | .error e => .error (.badUri e)

/-- What `decode` reads, or nothing for `null`. -/
def option {α : Type} (decode : Decoder α) : Decoder (Option α)
  | _, .null => .ok none
  | o, d => (decode o d).map some

/-- The items of an array, one after the other. -/
def items {α : Type} (decode : Doc .value → Except DecodeError α) :
    Doc .items → Except DecodeError (List α)
  | .noItems => .ok []
  | .item head rest => do
    let x ← decode head
    let xs ← items decode rest
    .ok (x :: xs)
  | .broken whenRead _ => .error (.malformed whenRead)

/-- An array of what `decode` reads. -/
def list {α : Type} (decode : Decoder α) : Decoder (List α)
  | o, .array ds => do items (decode (← o.enter)) ds
  | _, d => reject .sequence d

/-- The members of an object with all kinds of keys, one after the other. -/
def members {α : Type} (decode : Doc .value → Except DecodeError α) :
    Doc .members → Except DecodeError (List (String × α))
  | .noMembers => .ok []
  | .member key value rest => do
    let k ← ofSyntax key
    let x ← decode value
    let xs ← members decode rest
    .ok ((k, x) :: xs)
  | .broken whenRead _ => .error (.malformed whenRead)

/-- An object that maps keys to what `decode` reads, in the order of the keys. Of members
with one key the last counts. -/
def dictionary {α : Type} (decode : Decoder α) : Decoder (List (String × α))
  | o, .object ds => do
    let ms ← members (decode (← o.enter)) ds
    .ok (ms.foldl (fun ms m => Json.insert m.1 m.2 ms) [])
  | _, d => reject .map d

-- ============================================ arbitrary values

/-- What a piece of a document denotes as a value. -/
def Denoted : Part → Type
  | .value => Json
  | .items => List Json
  | .members => List (String × Json)

/-- Any piece of a document as a value. -/
def anyPart : {p : Part} → Doc p → Origin → Except DecodeError (Denoted p)
  | _, .null, _ => .ok Json.null
  | _, .bool b, _ => .ok (Json.bool b)
  | _, .number n, _ => do
    match ← ofSyntax n with
    | .int n => .ok (Json.int n)
    | .float x => .ok (Json.float x)
  | _, .text s, _ => do .ok (Json.text (← ofSyntax s))
  | _, .array ds, o => do
    let xs ← anyPart ds (← o.enter)
    .ok (Json.array xs)
  | _, .object ds, o => do
    let ms ← anyPart ds (← o.enter)
    .ok (Json.ofMembers ms)
  | _, .noItems, _ => .ok ([] : List Json)
  | _, .item head rest, o => do
    let x : Json ← anyPart head o
    let xs : List Json ← anyPart rest o
    .ok (x :: xs)
  | _, .noMembers, _ => .ok ([] : List (String × Json))
  | _, .member key value rest, o => do
    let k ← ofSyntax key
    let x : Json ← anyPart value o
    let xs : List (String × Json) ← anyPart rest o
    .ok ((k, x) :: xs)
  | _, .broken whenRead _, _ => .error (.malformed whenRead)

/-- Any value. -/
def any : Decoder Json := fun o d => anyPart d o

end Decoder

-- ============================================ whole documents

/-- Decodes a text. What follows the value is looked at only when the value is sound. -/
def decodeText {α : Type} (decode : Decoder α) (bs : List UInt8) : Except DecodeError α := do
  let doc := Document.read bs
  let x ← decode (.text maxLevels) doc.root
  if doc.trailing then .error (.malformed .trailingCharacters) else .ok x

/-- Decodes a text, and keeps it for the complaint. -/
def decodeDocument {α : Type} (decode : Decoder α) (bs : List UInt8) : Except JsonError α :=
  (decodeText decode bs).mapError fun e => ⟨e, some bs⟩

theorem decodeDocument_eq_ok {α : Type} {decode : Decoder α} {bs : List UInt8} {x : α} :
    decodeDocument decode bs = .ok x ↔ decodeText decode bs = .ok x := by
  rw [decodeDocument]
  cases decodeText decode bs with
  | error e => exact ⟨nofun, nofun⟩
  | ok y =>
      exact ⟨fun h => congrArg Except.ok (Except.ok.inj h),
        fun h => congrArg Except.ok (Except.ok.inj h)⟩

/-- Decodes a value. -/
def decodeValue {α : Type} (decode : Decoder α) (v : Json) : Except DecodeError α :=
  decode .value (Doc.ofJson v)

end CallExplorer
