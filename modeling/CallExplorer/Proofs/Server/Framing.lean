/-
Frames.

A frame is a header and a body. The header has a line with the length of the body, any number of
lines that say something else, and a blank line at the end. `Framed` relates frames to their
bodies without saying how they are read. Reading a frame gives its body and stops right behind
it (`readFrame_framed`); what the client writes is a frame of what it wanted to say.
-/
import CallExplorer.Proofs.Text.Blank
import CallExplorer.Proofs.Text.Digits
import CallExplorer.Server.Frame

namespace CallExplorer

namespace Server

-- ============================================ frames

/-- A header line that is not about the length. -/
structure HeaderField where
  name : String
  value : String
  isName : ∀ c ∈ name.toList, Text.isBlank c = false ∧ c ≠ ':'
  notLength : Text.eqIgnoreCase name "content-length" = false
  oneLine : '\n' ∉ value.toList

/-- A header line as it is written. -/
def HeaderField.text (f : HeaderField) : String := f.name ++ ":" ++ f.value ++ "\r\n"

/-- The header line with the length. -/
def lengthText (length : Nat) : String := "Content-Length: " ++ Text.decimal length ++ "\r\n"

-- stated, since Lean takes long to find the equations of texts that end in a line feed
theorem lengthText_eq (length : Nat) :
    lengthText length = "Content-Length: " ++ Text.decimal length ++ "\r\n" := rfl

theorem headerText_eq (length : Nat) :
    headerText length = "Content-Length: " ++ Text.decimal length ++ "\r\n\r\n" := rfl

/-- The bytes of a frame of a body. -/
def Framed (bytes body : List UInt8) : Prop :=
  ∃ before after : List HeaderField,
    bytes = before.flatMap (fun f => Text.bytes f.text)
      ++ (Text.bytes (lengthText body.length)
        ++ (after.flatMap (fun f => Text.bytes f.text) ++ (Text.bytes "\r\n" ++ body)))

-- ============================================ lines

theorem arrivals_append (xs ys : List UInt8) : arrivals (xs ++ ys) = arrivals xs ++ arrivals ys :=
  List.map_append

/-- A line is read up to its line feed, whatever was read of it before. -/
theorem readLineFrom_eq {line : List UInt8} (h : 0x0A ∉ line) (rest : List Arrival) :
    ∀ sofar : List UInt8, readLineFrom sofar (arrivals line ++ .byte 0x0A :: rest)
      = (.ok (sofar.reverse ++ (line ++ [0x0A])), rest) := by
  induction line with
  | nil =>
      intro sofar
      show readLineFrom sofar (.byte 0x0A :: rest) = _
      rw [readLineFrom, if_pos rfl, List.reverse_cons, List.nil_append]
  | cons b line ih =>
      intro sofar
      have hb : b ≠ 0x0A := fun heq => h (heq ▸ List.mem_cons_self)
      show readLineFrom sofar (.byte b :: (arrivals line ++ .byte 0x0A :: rest)) = _
      rw [readLineFrom, if_neg hb, ih fun hmem => h (List.mem_cons_of_mem b hmem),
        List.reverse_cons, List.append_assoc, List.singleton_append, List.cons_append]

theorem bytes_line (s : String) : Text.bytes (s ++ "\r\n") = Text.bytes s ++ [0x0D] ++ [0x0A] := by
  have hend : Text.bytes "\r\n" = [0x0D, 0x0A] := by decide
  rw [Text.bytes_append, hend, List.append_assoc]
  rfl

/-- Bytes that end with a line feed and have no other. -/
def IsLine (bs : List UInt8) : Prop := ∃ front, 0x0A ∉ front ∧ bs = front ++ [0x0A]

/-- A text without a line feed is a line when it is ended. -/
theorem isLine_ended {s : String} (h : '\n' ∉ s.toList) : IsLine (Text.bytes (s ++ "\r\n")) := by
  refine ⟨Text.bytes s ++ [0x0D], fun hmem => ?_, bytes_line s⟩
  rcases List.mem_append.1 hmem with hmem | hmem
  · obtain ⟨c, hc, hn⟩ := Text.mem_of_mem_bytes hmem (by decide)
    obtain rfl : c = '\n' := by rw [← Char.ofNat_toNat c, hn]; rfl
    exact h hc
  · exact absurd hmem (by decide)

theorem IsLine.ne_nil {line : List UInt8} (h : IsLine line) : line ≠ [] := by
  obtain ⟨front, -, rfl⟩ := h
  simp

/-- A line is read as a line. -/
theorem readLine_line {line : List UInt8} (h : IsLine line) (rest : List Arrival) :
    readLine (arrivals line ++ rest) = (.ok line, rest) := by
  obtain ⟨front, hfront, rfl⟩ := h
  rw [arrivals_append, List.append_assoc]
  exact readLineFrom_eq hfront rest []

/-- A header line is read for what it says. -/
theorem readHeader_line {line : String} (h : IsLine (Text.bytes line)) (found : Option Nat)
    (rest : List Arrival) :
    readHeader found (arrivals (Text.bytes line) ++ rest)
      = match HeaderLine.ofLine line.toList with
        | .blank => (.ok found, rest)
        | .other => readHeader found rest
        | .length raw =>
          match Text.readNat Text.max64 raw with
          | .error why => (.error (.badLength (String.ofList raw) why), rest)
          | .ok n => readHeader (some n) rest := by
  have hne : arrivals (Text.bytes line) ++ rest ≠ [] := by
    simp [arrivals, h.ne_nil]
  have hline := readHeader_of_line hne (readLine_line h rest) found
  rw [Text.ofBytes?_bytes] at hline
  exact hline

-- ============================================ what lines say

/-- A line with a colon has the name in front of it and the value behind it. -/
theorem ofLine_colon {name : List Char} (hname : ':' ∉ name) (value : List Char) :
    HeaderLine.ofLine (name ++ ':' :: value)
      = if Text.eqIgnoreCase (String.ofList (Text.trim name)) "content-length" then
          .length (Text.trim value)
        else .other := by
  have htrim : Text.trim (name ++ ':' :: value)
      = Text.trimStart name ++ ':' :: Text.trimEnd value :=
    Text.trim_append_cons (by decide) name value
  have hbefore : ∀ c ∈ Text.trimStart name, (c != ':') = true := by
    intro c hc
    refine bne_iff_ne.2 fun heq => hname ?_
    exact heq ▸ (List.dropWhile_sublist Text.isBlank).mem hc
  have htake : (Text.trimStart name ++ ':' :: Text.trimEnd value).takeWhile (· != ':')
      = Text.trimStart name := by
    rw [List.takeWhile_append_of_pos hbefore, List.takeWhile_cons_of_neg (by decide),
      List.append_nil]
  have hdrop : (Text.trimStart name ++ ':' :: Text.trimEnd value).dropWhile (· != ':')
      = ':' :: Text.trimEnd value := by
    rw [List.dropWhile_append_of_pos hbefore, List.dropWhile_cons_of_neg (by decide)]
  rw [HeaderLine.ofLine, htrim]
  split
  next hnil => simp at hnil
  next hcons =>
    rw [hdrop, htake, Text.trim_trimStart]
    show (if _ then HeaderLine.length (Text.trim (Text.trimEnd value)) else _) = _
    rw [Text.trim_trimEnd]

/-- A field that is not about the length says nothing of interest. -/
theorem ofLine_field (f : HeaderField) : HeaderLine.ofLine f.text.toList = .other := by
  have hline : f.text.toList = f.name.toList ++ ':' :: (f.value ++ "\r\n").toList := by
    simp [HeaderField.text]
  have hname : ':' ∉ f.name.toList := fun hmem => (f.isName ':' hmem).2 rfl
  rw [hline, ofLine_colon hname, Text.trim_of_not fun c hc => (f.isName c hc).1,
    String.ofList_toList, f.notLength]
  rfl

theorem isBlank_of_isDigit {c : Char} (h : c.isDigit = true) : Text.isBlank c = false := by
  have hc := Text.isDigit_bounds h
  simp only [Text.isBlank]
  grind

/-- The line with the length says the length. -/
theorem ofLine_length (length : Nat) :
    HeaderLine.ofLine (lengthText length).toList = .length (Text.decimal length).toList := by
  have hline : (lengthText length).toList
      = "Content-Length".toList ++ ':' :: (' ' :: (Nat.toDigits 10 length ++ ['\r', '\n'])) := by
    simp [lengthText_eq, Text.toList_decimal]
  have hdigits : ∀ c ∈ Nat.toDigits 10 length, Text.isBlank c = false := fun c hc =>
    isBlank_of_isDigit (Text.isDigit_of_mem_decimal hc)
  have hend : Text.trimEnd (' ' :: (Nat.toDigits 10 length ++ ['\r', '\n']))
      = ' ' :: Nat.toDigits 10 length := by
    rcases List.eq_nil_or_concat (Nat.toDigits 10 length) with hnil | ⟨ds, d, hds⟩
    · exact absurd hnil Nat.toDigits_ne_nil
    · rw [List.concat_eq_append] at hds
      have hd := hdigits d (by rw [hds]; simp)
      have hblanks : Text.trimEnd ['\r', '\n'] = [] := by decide
      rw [hds, List.append_assoc, ← List.cons_append, List.singleton_append,
        Text.trimEnd_append_cons hd, hblanks, List.cons_append]
  have hstart : Text.trim (' ' :: Nat.toDigits 10 length) = Text.trim (Nat.toDigits 10 length) := by
    rw [Text.trim, Text.trimStart, List.dropWhile_cons_of_pos (by decide)]
    rfl
  have hvalue : Text.trim (' ' :: (Nat.toDigits 10 length ++ ['\r', '\n']))
      = Nat.toDigits 10 length := by
    rw [← Text.trim_trimEnd, hend, hstart, Text.trim_of_not hdigits]
  rw [hline, ofLine_colon (by decide), hvalue, Text.toList_decimal, if_pos (by decide)]

-- ============================================ reading frames

/-- Fields change nothing about the length. -/
theorem readHeader_fields (fs : List HeaderField) (found : Option Nat) (rest : List Arrival) :
    readHeader found (arrivals (fs.flatMap fun f => Text.bytes f.text) ++ rest)
      = readHeader found rest := by
  induction fs with
  | nil => rfl
  | cons f fs ih =>
      have hline : '\n' ∉ (f.name ++ ":" ++ f.value).toList := by
        intro hmem
        simp only [String.toList_append, List.mem_append] at hmem
        rcases hmem with (hname | hcolon) | hvalue
        · exact absurd (f.isName '\n' hname).1 (by decide)
        · exact absurd hcolon (by decide)
        · exact f.oneLine hvalue
      have hsays : HeaderLine.ofLine (f.name ++ ":" ++ f.value ++ "\r\n").toList = .other :=
        ofLine_field f
      rw [List.flatMap_cons, arrivals_append, List.append_assoc, HeaderField.text,
        readHeader_line (isLine_ended hline), hsays]
      exact ih

theorem readExactlyFrom_eq (body : List UInt8) (rest : List Arrival) :
    ∀ sofar : List UInt8, readExactlyFrom sofar body.length (arrivals body ++ rest)
      = (.ok (sofar.reverse ++ body), rest) := by
  induction body with
  | nil =>
      intro sofar
      rw [List.append_nil]
      rfl
  | cons b body ih =>
      intro sofar
      show readExactlyFrom (b :: sofar) body.length (arrivals body ++ rest) = _
      rw [ih, List.reverse_cons, List.append_assoc, List.singleton_append]

/-- A frame of at most 64 MiB is read as its body, and what follows the frame is left. -/
theorem readFrame_framed {bytes body : List UInt8} (h : Framed bytes body)
    (hsize : body.length ≤ maxMessageBytes) (rest : List Arrival) :
    readFrame (arrivals bytes ++ rest) = (.ok body, rest) := by
  obtain ⟨before, after, rfl⟩ := h
  have hnumber : Text.readNat Text.max64 (Text.decimal body.length).toList = .ok body.length :=
    Text.readNat_decimal (Nat.le_trans hsize (by decide))
  have hline : '\n' ∉ ("Content-Length: " ++ Text.decimal body.length).toList := by
    intro hmem
    simp only [String.toList_append, Text.toList_decimal, List.mem_append] at hmem
    rcases hmem with hname | hdigit
    · exact absurd hname (by decide)
    · exact absurd (Text.isDigit_of_mem_decimal hdigit) (by decide)
  have hsays : HeaderLine.ofLine ("Content-Length: " ++ Text.decimal body.length ++ "\r\n").toList
      = .length (Text.decimal body.length).toList := ofLine_length body.length
  have hlength : ∀ left : List Arrival,
      readHeader none (arrivals (Text.bytes (lengthText body.length)) ++ left)
        = readHeader (some body.length) left := by
    intro left
    rw [lengthText_eq, readHeader_line (isLine_ended hline), hsays]
    simp only [hnumber]
  have hblank : readHeader (some body.length)
        (arrivals (Text.bytes "\r\n") ++ (arrivals body ++ rest))
      = (.ok (some body.length), arrivals body ++ rest) := by
    exact readHeader_line (isLine_ended (s := "") (by decide)) (some body.length)
      (arrivals body ++ rest)
  have hheader : readHeader none (arrivals (before.flatMap (fun f => Text.bytes f.text)
      ++ (Text.bytes (lengthText body.length)
        ++ (after.flatMap (fun f => Text.bytes f.text) ++ (Text.bytes "\r\n" ++ body)))) ++ rest)
      = (.ok (some body.length), arrivals body ++ rest) := by
    simp only [arrivals_append, List.append_assoc]
    rw [readHeader_fields, hlength, readHeader_fields, hblank]
  have hbody := readExactlyFrom_eq body rest []
  rw [readFrame, hheader]
  simp only [if_neg (Nat.not_lt.2 hsize)]
  exact hbody

/-- No bytes of at most 64 MiB are a frame of two bodies. -/
theorem framed_unique {bytes body body' : List UInt8} (hsize : bytes.length ≤ maxMessageBytes)
    (h : Framed bytes body) (h' : Framed bytes body') : body = body' := by
  have hshorter : ∀ {b : List UInt8}, Framed bytes b → b.length ≤ maxMessageBytes := by
    rintro b ⟨before, after, rfl⟩
    simp only [List.length_append] at hsize
    omega
  have hread := (readFrame_framed h (hshorter h) []).symm.trans
    (readFrame_framed h' (hshorter h') [])
  injection hread with hbody
  injection hbody

-- ============================================ written frames

/-- What is written of a body is a frame of it. -/
theorem framed_frame (body : String) : Framed (frame body) (Text.bytes body) := by
  have hsize : body.utf8ByteSize = (Text.bytes body).length := rfl
  refine ⟨[], [], ?_⟩
  have hend : "\r\n\r\n" = "\r\n" ++ "\r\n" := by decide
  have hheader : headerText (Text.bytes body).length
      = lengthText (Text.bytes body).length ++ "\r\n" := by
    rw [headerText_eq, lengthText_eq, hend, ← String.append_assoc]
  rw [frame, hsize, hheader, Text.bytes_append, List.append_assoc]
  simp only [List.flatMap_nil, List.nil_append]

end Server

end CallExplorer
