/-
Message framing.

A message is a header and a body. The header is a block of lines that ends with a
blank one; the only line that counts gives the length of the body in bytes, and of
several the last counts. Lines end with a line feed, blanks around names and
values do not matter, nor does the case of names.
-/
import CallExplorer.Server.Stream
import CallExplorer.Text.Blank

namespace CallExplorer

namespace Server

-- ============================================ header lines

/-- What a header line says. -/
inductive HeaderLine where
  /-- The header ends. -/
  | blank
  /-- The body has this length, as written. -/
  | length (raw : List Char)
  /-- Nothing of interest. -/
  | other
  deriving DecidableEq, Repr

/-- Reads a header line. -/
def HeaderLine.ofLine (line : List Char) : HeaderLine :=
  match Text.trim line with
  | [] => .blank
  | header =>
    match header.dropWhile (· != ':') with
    | [] => .other
    | _ :: value =>
      let name := String.ofList (Text.trim (header.takeWhile (· != ':')))
      if Text.eqIgnoreCase name "content-length" then .length (Text.trim value) else .other

-- ============================================ reading

/-- Reads header lines up to the blank one; `found` is the length seen so far. -/
def readHeader (found : Option Nat) (stream : List Arrival) :
    Except StreamError (Option Nat) × List Arrival :=
  if h : stream = [] then (.error .closed, [])
  else
    match hr : readLine stream with
    | (.error e, rest) => (.error e, rest)
    | (.ok line, rest) =>
      have := length_rest_lt h hr
      match Text.ofBytes? line with
      | none => (.error .notText, rest)
      | some text =>
        match HeaderLine.ofLine text.toList with
        | .blank => (.ok found, rest)
        | .other => readHeader found rest
        | .length raw =>
          match Text.readNat Text.max64 raw with
          | .error why => (.error (.badLength (String.ofList raw) why), rest)
          | .ok n => readHeader (some n) rest
termination_by stream.length

/-- A header line that is read settles what comes of the header, or the next line does. -/
theorem readHeader_of_line {stream rest : List Arrival} {line : List UInt8} (h : stream ≠ [])
    (hline : readLine stream = (.ok line, rest)) (found : Option Nat) :
    readHeader found stream
      = match Text.ofBytes? line with
        | none => (.error .notText, rest)
        | some text =>
          match HeaderLine.ofLine text.toList with
          | .blank => (.ok found, rest)
          | .other => readHeader found rest
          | .length raw =>
            match Text.readNat Text.max64 raw with
            | .error why => (.error (.badLength (String.ofList raw) why), rest)
            | .ok n => readHeader (some n) rest := by
  rw [readHeader, dif_neg h]
  split
  next heq =>
    rw [hline] at heq
    cases heq
  next line' rest' heq =>
    rw [hline] at heq
    obtain ⟨hline', hrest⟩ := Prod.mk.inj heq
    injection hline' with hline'
    subst hline' hrest
    rfl

/-- Reads the body of the next message. -/
def readFrame (stream : List Arrival) : Except StreamError (List UInt8) × List Arrival :=
  match readHeader none stream with
  | (.error e, rest) => (.error e, rest)
  | (.ok none, rest) => (.error .noLength, rest)
  | (.ok (some n), rest) =>
    if maxMessageBytes < n then (.error (.tooLong n), rest) else readExactly n rest

-- ============================================ writing

/-- The header of a body with so many bytes. -/
def headerText (length : Nat) : String :=
  "Content-Length: " ++ Text.decimal length ++ "\r\n\r\n"

/-- The bytes of a message. -/
def frame (body : String) : List UInt8 :=
  Text.bytes (headerText body.utf8ByteSize) ++ Text.bytes body

end Server

end CallExplorer
