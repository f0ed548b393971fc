/-
File paths and their URIs.

A `file` URI names a path of this machine: its segments, with dot segments resolved
and encoded octets decoded. References of any other kind name no path and stand for
themselves, so that documents without a file can still be shown.

Dot segments are resolved before octets are decoded. A segment that is a drive
letter is never climbed out of. The other way round, an absolute path becomes a
`file` URI by encoding each of its components.
-/
import CallExplorer.Text.Blank
import CallExplorer.Uri.Basic
import CallExplorer.Uri.Host

namespace CallExplorer

namespace Uri

-- ============================================ dot segments

/-- How many dots a segment consists of, each written plainly or encoded; nothing for a
segment that holds anything else. -/
def dotCount? : List Char → Option Nat
  | [] => some 0
  | '.' :: rest => (dotCount? rest).map (· + 1)
  | '%' :: '2' :: e :: rest =>
    if e = 'e' ∨ e = 'E' then (dotCount? rest).map (· + 1) else none
  | _ => none

/-- Whether a segment is a letter and a colon. -/
def isDriveLetter : List Char → Bool
  | [a, b] => a.isAlpha && b == ':'
  | _ => false

/-- Leaves the innermost of the open segments, the last first, unless it is a drive letter. -/
def climb : List (List Char) → List (List Char)
  | [] => []
  | s :: rest => if isDriveLetter s then s :: rest else rest

/-- Resolves the dot segments below the open segments, which come the last first. A dot
segment at the end leaves an empty one. -/
def resolveSegments (opened : List (List Char)) : List (List Char) → List (List Char)
  | [] => opened.reverse
  | [s] =>
    match dotCount? s with
    | some 1 => opened.reverse ++ [[]]
    | some 2 => (climb opened).reverse ++ [[]]
    | _ => opened.reverse ++ [s]
  | s :: rest =>
    match dotCount? s with
    | some 1 => resolveSegments opened rest
    | some 2 => resolveSegments (climb opened) rest
    | _ => resolveSegments (s :: opened) rest

/-- Drops the empty segments in front, except the last segment of all. -/
def dropLeadingEmpty : List (List Char) → List (List Char)
  | [] :: s :: rest => dropLeadingEmpty (s :: rest)
  | segments => segments

-- ============================================ from a URI to a path

/-- Whether a character ends an authority. -/
def endsAuthority (c : Char) : Bool := c == '/' || c == '?' || c == '#'

/-- What follows the scheme of a `file` URI, if the text is one. -/
def afterFileScheme? (cs : List Char) : Option (List Char) :=
  match cs.dropWhile isSchemeChar with
  | ':' :: rest =>
    if Text.eqIgnoreCase (String.ofList (cs.takeWhile isSchemeChar)) "file" then some rest else none
  | _ => none

/-- The place of a `file` URI and the text from its path on, less a leading slash. A drive
letter instead of an authority belongs to the path. -/
def fileTarget? (cs : List Char) : Option (HostName.Place × List Char) :=
  let withoutSlash : List Char → List Char
    | '/' :: rest => rest
    | rest => rest
  match afterFileScheme? cs with
  | none => none
  | some ('/' :: '/' :: rest) =>
    let authority := rest.takeWhile (!endsAuthority ·)
    if isDriveLetter authority then some (.here, rest)
    else some (HostName.place authority, withoutSlash (rest.dropWhile (!endsAuthority ·)))
  | some rest => some (.here, withoutSlash rest)

/-- The resolved segments of the path that a `file` URI names. A path on another host is one of
this machine only if it begins with a drive letter, for there are no drives but here. -/
def fileSegments? (cs : List Char) : Option (List (List Char)) :=
  match fileTarget? cs with
  | none => none
  | some (there, text) =>
    let segments :=
      resolveSegments [] (Text.splitAt '/' (text.takeWhile fun c => c != '?' && c != '#'))
    match there with
    | .here => some segments
    | .elsewhere => if segments.head?.any isDriveLetter then some segments else none
    | .nowhere => none

/-- The bytes of a path of resolved segments. After a drive letter there is a slash. -/
def pathBytes (segments : List (List Char)) : List UInt8 :=
  let bs := segments.flatMap fun s => 0x2F :: decodeOctets s
  match bs.reverse with
  | last :: letter :: _ :: _ =>
    if (Char.ofNat letter.toNat).isAlpha && (last == 0x3A || last == 0x7C) then bs ++ [0x2F] else bs
  | _ => bs

/-- The path that a `file` URI names, if it names one and the path is text. -/
def filePath? (u : Uri) : Option String :=
  match fileSegments? u.text.toList with
  | none => none
  | some segments => Text.ofBytes? (pathBytes (dropLeadingEmpty segments))

/-- The path for display: the file of a `file` URI, the text of any other. -/
def toPath (u : Uri) : String := u.filePath?.getD u.text

-- ============================================ from a path to a URI

/-- Why a path has no URI. -/
inductive PathError where
  | notAbsolute (path : String)
  | malformed (text : String)
  deriving DecidableEq

/-- The components of a path: its pieces between slashes, less empty ones and single dots. -/
def components (path : List Char) : List (List Char) :=
  (Text.splitAt '/' path).filter fun s => !s.isEmpty && s != ['.']

/-- The text of the URI of a path. -/
def fileText (path : List Char) : List Char :=
  let encoded := (components path).map fun s =>
    '/' :: (Text.bytes (String.ofList s)).flatMap encodeOctet
  "file://".toList ++ if encoded.isEmpty then ['/'] else encoded.flatten

/-- The `file` URI of an absolute path. -/
def ofPath (path : String) : Except PathError Uri :=
  match path.toList with
  | '/' :: _ =>
    let text := String.ofList (fileText path.toList)
    match parse text with
    | .ok u => .ok u
    | .error _ => .error (.malformed text)
  | _ => .error (.notAbsolute path)

end Uri

end CallExplorer
