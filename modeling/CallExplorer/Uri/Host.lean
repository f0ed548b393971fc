/-
Hosts of `file` references.

The authority of a `file` reference is the name or the address of a host, and
nothing else: no user, no port. Without a host, or with the name of this machine,
the file is here. A name is compared in plain form: octets decoded, capitals and
other forms of characters replaced, and what is taken for nothing left out.

A name whose last part is a number must be an address of four bytes. The last number
of an address stands for all the bytes that are not given, and numbers may be octal or
hexadecimal.
-/
import CallExplorer.Text.Bytes
import CallExplorer.Uri.Joiner
import CallExplorer.Uri.Octet
import CallExplorer.Uri.Punycode
import CallExplorer.Uri.Variant

namespace CallExplorer.Uri.HostName

-- ============================================ addresses

/-- The number that digits to a base make up, if all of them are. -/
def numberOf? (base : Nat) : (sum : Nat) → List Char → Option Nat
  | sum, [] => some sum
  | sum, c :: cs =>
    match Text.hexDigit? c with
    | some d => if d < base then numberOf? base (sum * base + d) cs else none
    | none => none

/-- The number that a part of an address stands for. A zero in front makes it octal, and one
with an `x` hexadecimal. -/
def addressNumber? : List Char → Option Nat
  | [] => none
  | '0' :: 'x' :: cs => numberOf? 16 0 cs
  | '0' :: c :: cs => numberOf? 8 0 (c :: cs)
  | cs => numberOf? 10 0 cs

/-- The parts of a name, less the empty one behind a dot at the end. -/
def nameParts (name : List Char) : List (List Char) :=
  let parts := Text.splitAt '.' name
  if 1 < parts.length && parts.getLast? = some [] then parts.dropLast else parts

/-- Whether a name must be an address: its last part is a number, be it too large. -/
def endsInNumber (name : List Char) : Bool :=
  match (nameParts name).getLast? with
  | none => false
  | some part => (!part.isEmpty && part.all Char.isDigit) || (addressNumber? part).isSome

/-- Whether a name is an address. -/
def isAddress (name : List Char) : Bool :=
  match (nameParts name).mapM addressNumber? with
  | none => false
  | some numbers =>
    numbers.length ≤ 4 && numbers.dropLast.all (· < 256)
      && (numbers.getLast?.all fun n => n < Nat.pow 256 (5 - numbers.length))

-- ============================================ names

/-- The characters that a part of a name in plain form stands for, if it is one. A part in
disguise must stand for plain characters, and need the disguise. -/
def label? (label : List Char) : Option (List Char) :=
  let meant? : Option (List Char) :=
    match label with
    | 'x' :: 'n' :: '-' :: '-' :: disguised =>
      if label.any (0x80 ≤ ·.toNat) then none
      else
        (undisguise disguised).filter fun cs =>
          cs.any (0x80 ≤ ·.toNat)
            && cs.all fun c => !isExcluded c && foldChar c == [c] && !isVariant c
    | _ => some label
  meant?.filter fun cs => !cs.head?.any markSet.contains && joinersFit [] cs

/-- Whether a name in plain form has nothing but parts that stand together. -/
def hasLabels (name : List Char) : Bool :=
  match (Text.splitAt '.' name).mapM label? with
  | none => false
  | some labels => !labels.any asksForDirection || labels.all keepsDirection

/-- The plain form of the name of a host, if the text is one. -/
def plain? (text : List Char) : Option (List Char) :=
  match Text.ofBytes? (decodeOctets text) with
  | none => none
  | some s =>
    let name := s.toList.flatMap foldChar
    if name.isEmpty || s.toList.any isExcluded || name.any isExcluded then none
    else if !hasLabels name then none
    else if endsInNumber name && !isAddress name then none
    else some name

-- ============================================ places

/-- Where the authority of a `file` reference says that the file is. -/
inductive Place where
  | here
  /-- On another host. -/
  | elsewhere
  /-- On no host at all, since none can be called that. -/
  | nowhere
  deriving DecidableEq, Repr

/-- The place that an authority stands for. What begins with a bracket was found to be an
address already, and must only not have a port. -/
def place (authority : List Char) : Place :=
  if authority.isEmpty then .here
  else if authority.head? = some '[' then
    if authority.getLast? = some ']' then .elsewhere else .nowhere
  else
    match plain? authority with
    | none => .nowhere
    | some name => if name = "localhost".toList then .here else .elsewhere

end CallExplorer.Uri.HostName
