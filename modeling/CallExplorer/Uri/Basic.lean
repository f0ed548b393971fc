/-
URI references.

A location names its document by a URI reference: scheme, authority, path, query
and fragment, of which all but the path may be missing, in ASCII throughout. A
reference is kept as its text, together with the fact that the text is well formed;
two references are equal when their texts are.

`Uri.parse` checks a text from left to right. Every complaint names the index at
which the text goes wrong.
-/
import CallExplorer.Text.Bytes
import CallExplorer.Text.Hex
import CallExplorer.Text.Split

namespace CallExplorer

namespace Uri

-- ============================================ characters

/-- Letters, digits and the marks that are never encoded. -/
def isUnreserved (c : Char) : Bool :=
  c.isAlphanum || c == '-' || c == '.' || c == '_' || c == '~'

/-- The delimiters that may stand inside a component. -/
def isSubDelim (c : Char) : Bool :=
  c == '!' || c == '$' || c == '&' || c == '\'' || c == '(' || c == ')' || c == '*' || c == '+'
    || c == ',' || c == ';' || c == '='

/-- What a path segment is made of, apart from encoded octets. -/
def isSegmentChar (c : Char) : Bool := isUnreserved c || isSubDelim c || c == ':' || c == '@'

/-- What a path is made of, apart from encoded octets. -/
def isPathChar (c : Char) : Bool := isSegmentChar c || c == '/'

/-- What a query or a fragment is made of, apart from encoded octets. -/
def isQueryChar (c : Char) : Bool := isPathChar c || c == '?'

/-- What a registered name is made of, apart from encoded octets. -/
def isNameChar (c : Char) : Bool := isUnreserved c || isSubDelim c

/-- What a scheme is made of after its first letter. -/
def isSchemeChar (c : Char) : Bool := c.isAlphanum || c == '+' || c == '-' || c == '.'

-- ============================================ complaints

/-- What is wrong with a text at some point. -/
inductive Trouble where
  | character
  | octet
  | address
  deriving DecidableEq, Repr

/-- What is wrong with a text, and how many characters are left from there on. -/
structure Fault where
  trouble : Trouble
  left : Nat

/-- A fault at the first character of the rest. -/
def Fault.at (trouble : Trouble) (rest : List Char) : Fault := ⟨trouble, rest.length⟩

-- ============================================ scanning

/-- Passes over the allowed characters and encoded octets in front. -/
def skipEncoded (allowed : Char → Bool) : List Char → Except Fault (List Char)
  | [] => .ok []
  | '%' :: a :: b :: rest =>
    if Text.isHexDigit a && Text.isHexDigit b then skipEncoded allowed rest
    else .error (.at .octet ('%' :: a :: b :: rest))
  | '%' :: rest => .error (.at .octet ('%' :: rest))
  | c :: rest => if allowed c then skipEncoded allowed rest else .ok (c :: rest)

/-- Whether a text is a decimal octet, without needless zeros. -/
def isDecimalOctet (cs : List Char) : Bool :=
  match cs with
  | [a] => a.isDigit
  | [a, b] => a.isDigit && a != '0' && b.isDigit
  | [a, b, c] =>
    a.isDigit && a != '0' && b.isDigit && c.isDigit
      && (a.toNat - 48) * 100 + (b.toNat - 48) * 10 + (c.toNat - 48) < 256
  | _ => false

/-- Whether a text is an IPv4 address. -/
def isIPv4 (cs : List Char) : Bool :=
  let octets := Text.splitAt '.' cs
  octets.length == 4 && octets.all isDecimalOctet

/-- Whether a text is a group of an IPv6 address. -/
def isGroup (cs : List Char) : Bool := cs.length != 0 && cs.length ≤ 4 && cs.all Text.isHexDigit

/-- How many groups the pieces make, if all are groups, except that the last may be an
IPv4 address, which counts for two. -/
def groupCount? (v4 : Bool) : List (List Char) → Option Nat
  | [] => some 0
  | [p] => if isGroup p then some 1 else if v4 && isIPv4 p then some 2 else none
  | p :: ps => if isGroup p then (groupCount? v4 ps).map (· + 1) else none

/-- The two sides of the first double colon. -/
def splitDoubleColon : List Char → Option (List Char × List Char)
  | ':' :: ':' :: rest => some ([], rest)
  | [] => none
  | c :: rest => (splitDoubleColon rest).map fun (a, b) => (c :: a, b)

/-- The pieces of one side of a double colon; an empty side has none. -/
def sidePieces (cs : List Char) : List (List Char) := if cs.isEmpty then [] else Text.splitAt ':' cs

/-- Whether a text is an IPv6 address. A double colon stands for one group or more. -/
def isIPv6 (cs : List Char) : Bool :=
  match splitDoubleColon cs with
  | none => groupCount? true (Text.splitAt ':' cs) == some 8
  | some (a, b) =>
    match groupCount? false (sidePieces a), groupCount? true (sidePieces b) with
    | some m, some n => m + n < 8
    | _, _ => false

/-- Passes over an IP literal, whose opening bracket is gone already. -/
def skipAddress (cs : List Char) : Except Fault (List Char) :=
  match cs.dropWhile (· != ']') with
  | [] => .error ⟨.address, cs.length + 1⟩
  | _ :: rest =>
    if isIPv6 (cs.takeWhile (· != ']')) then .ok rest else .error ⟨.address, cs.length + 1⟩

/-- Passes over a port, if there is one. -/
def skipPort : List Char → List Char
  | ':' :: rest => rest.dropWhile Char.isDigit
  | cs => cs

/-- Checks host and port as they were scanned together, `rest` being what follows. -/
def checkHostPort (scanned rest : List Char) : Except Fault Unit :=
  match scanned.dropWhile (· != ':') with
  | [] => .ok ()
  | colon :: port =>
    if port.contains ':' then .error (.at .character (colon :: port ++ rest))
    else
      match port.reverse.dropWhile Char.isDigit with
      | [] => .ok ()
      | bad => .error ⟨.character, port.length - bad.length + 1 + rest.length⟩

/-- Passes over an authority. -/
def skipAuthority (cs : List Char) : Except Fault (List Char) := do
  let rest ← skipEncoded (fun c => isNameChar c || c == ':') cs
  match rest with
  | '@' :: '[' :: rest => (skipAddress rest).map skipPort
  | '@' :: rest => (skipEncoded isNameChar rest).map skipPort
  | rest =>
    let scanned := cs.take (cs.length - rest.length)
    match scanned, rest with
    | [], '[' :: rest => (skipAddress rest).map skipPort
    | _, _ =>
      checkHostPort scanned rest
      .ok rest

/-- Checks what may follow the path. -/
def checkTail (cs : List Char) : Except Fault Unit := do
  let rest ←
    match cs with
    | '?' :: rest => skipEncoded isQueryChar rest
    | rest => .ok rest
  let rest ←
    match rest with
    | '#' :: rest => skipEncoded isQueryChar rest
    | rest => .ok rest
  match rest with
  | [] => .ok ()
  | rest => .error (.at .character rest)

/-- Checks from the path on. -/
def checkPath (cs : List Char) : Except Fault Unit := do
  checkTail (← skipEncoded isPathChar cs)

/-- Checks from the authority on. The path after it is empty or starts with a slash. -/
def checkAuthority (cs : List Char) : Except Fault Unit := do
  let path ← skipAuthority cs
  let rest ← skipEncoded isPathChar path
  match path with
  | '/' :: _ => checkTail rest
  | _ => if rest.length < path.length then .error (.at .character path) else checkTail rest

/-- Checks a text without a scheme, whose first segment must not hold a colon. -/
def checkRelative (cs : List Char) : Except Fault Unit := do
  let rest ← skipEncoded (fun c => isSegmentChar c && c != ':') cs
  match rest with
  | ':' :: _ => .error (.at .character rest)
  | _ => checkPath rest

/-- Checks a whole text. -/
def check (cs : List Char) : Except Fault Unit :=
  match cs.dropWhile isSchemeChar with
  | ':' :: rest =>
    if (cs.head?.map Char.isAlpha).getD false then
      match rest with
      | '/' :: '/' :: rest => checkAuthority rest
      | rest => checkPath rest
    else .error (.at .character cs)
  | _ =>
    match cs with
    | '/' :: '/' :: rest => checkAuthority rest
    | cs => checkRelative cs

end Uri

-- ============================================ references

/-- A well-formed URI reference. -/
structure Uri where
  text : String
  wellFormed : Uri.check text.toList = .ok ()
  deriving DecidableEq

/-- Why a text is no URI reference. -/
structure UriError where
  trouble : Uri.Trouble
  index : Nat
  deriving DecidableEq, Repr

/-- The complaint in words. -/
def UriError.message (e : UriError) : String :=
  let what :=
    match e.trouble with
    | .character => "unexpected character"
    | .octet => "invalid percent-encoded octet"
    | .address => "invalid IP literal"
  what ++ " at index " ++ toString e.index

namespace Uri

/-- Reads a URI reference. -/
def parse (text : String) : Except UriError Uri :=
  match h : check text.toList with
  | .ok () => .ok ⟨text, h⟩
  | .error f => .error ⟨f.trouble, text.length - f.left⟩

theorem ext {a b : Uri} (h : a.text = b.text) : a = b := by
  cases a; cases b; cases h; rfl

/-- Reading gives back the text. -/
theorem text_of_parse {s : String} {u : Uri} (h : parse s = .ok u) : u.text = s := by
  unfold parse at h
  split at h
  · injection h with h
    rw [← h]
  · cases h

/-- The text of a reference reads as that reference. -/
theorem parse_text (u : Uri) : parse u.text = .ok u := by
  unfold parse
  split
  · rfl
  · rename_i h
    rw [u.wellFormed] at h
    cases h

end Uri

end CallExplorer
