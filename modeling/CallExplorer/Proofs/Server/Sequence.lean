/-
Frames in a row.

Frames stand one behind the other in a stream, with nothing between them. The header of a frame
says how many bytes its text has, and so where the next frame begins. Nothing else does: a text may
have blank lines in it, or lines that look like a header, or be no message at all.

So a reader that has read some of the frames stands exactly in front of the next one, whatever came
of reading the others (`behind_frames`, by induction on how many were read). What comes of reading
that one is up to its text alone.
-/
import CallExplorer.Proofs.Action
import CallExplorer.Proofs.Json.Reading
import CallExplorer.Proofs.Server.Framing
import CallExplorer.Proofs.Server.Reading

namespace CallExplorer

-- so what a text is read as can be computed
deriving instance DecidableEq for Doc
deriving instance DecidableEq for Document

namespace Server

namespace Client

variable {texts : List String} {text : String}

/-- What is made of a text by itself. -/
def readText (text : String) : Except Failure Reply :=
  (Reply.ofBody (Text.bytes text)).mapError .undecodable

/-- A text is read as the reply that its document is. -/
theorem readText_of_read {d : Doc .value} {r : Reply}
    (hread : Document.read (Text.bytes text) = ⟨d, false⟩)
    (hreply : Reply.decoder (.text maxLevels) d = .ok r) : readText text = .ok r :=
  mapError_eq_ok.2 (decodeDocument_eq_ok.2 (decodeText_read hread hreply))

/-- If the document is no reply, the text cannot be read. -/
theorem isOk_readText {d : Doc .value} (hread : Document.read (Text.bytes text) = ⟨d, false⟩) :
    (readText text).isOk = (Reply.decoder (.text maxLevels) d).isOk := by
  rw [readText, Reply.ofBody, decodeDocument, decodeText, hread]
  cases Reply.decoder (.text maxLevels) d <;> rfl

/-- A frame is read as its text by itself, and what follows the frame is left. -/
theorem readReply_frame (hsize : text.utf8ByteSize ≤ maxMessageBytes) (rest : List Arrival) :
    readReply (arrivals (frame text) ++ rest) = (readText text, rest) := by
  have hbody : (Text.bytes text).length ≤ maxMessageBytes := hsize
  rw [readReply, readFrame_framed (framed_frame text) hbody]
  rfl

/-- The stream of some texts, each in a frame, in front of what follows. -/
def inFrames (texts : List String) (tail : List Arrival) : List Arrival :=
  arrivals (texts.flatMap frame) ++ tail

theorem inFrames_cons (text : String) (texts : List String) (tail : List Arrival) :
    inFrames (text :: texts) tail = arrivals (frame text) ++ inFrames texts tail := by
  unfold inFrames
  rw [List.flatMap_cons, arrivals_append, List.append_assoc]

/-- Behind some of the frames stand the others. -/
theorem behind_frames (hsize : ∀ t ∈ texts, t.utf8ByteSize ≤ maxMessageBytes)
    (tail : List Arrival) {k : Nat} (hk : k ≤ texts.length) :
    behind (inFrames texts tail) k = inFrames (texts.drop k) tail := by
  induction k with
  | zero => rfl
  | succ k ih =>
      have hlt : k < texts.length := hk
      have hhere := hsize texts[k] (List.getElem_mem hlt)
      rw [behind, ih (Nat.le_of_lt hlt), List.drop_eq_getElem_cons hlt, inFrames_cons,
        readReply_frame hhere]

theorem message_frames (hsize : ∀ t ∈ texts, t.utf8ByteSize ≤ maxMessageBytes)
    (tail : List Arrival) {k : Nat} (hk : k < texts.length) :
    message (inFrames texts tail) k = readText texts[k] := by
  have hhere := hsize texts[k] (List.getElem_mem hk)
  rw [message, behind_frames hsize tail (Nat.le_of_lt hk), List.drop_eq_getElem_cons hk,
    inFrames_cons, readReply_frame hhere]

end Client

/-- Let texts of at most 64 MiB be written one after the other, each in its frame, with anything at
all behind them. To read as many messages gives what each text by itself is read as, a reply or the
failure to make one of it, in the order of the texts; and it leaves what stands behind them. -/
theorem messages_of_frames {texts : List String}
    (hsize : ∀ t ∈ texts, t.utf8ByteSize ≤ maxMessageBytes) (tail : List Arrival) :
    let stream := arrivals (texts.flatMap frame) ++ tail
    (List.range texts.length).map (Client.message stream)
        = texts.map (fun t => (Reply.ofBody (Text.bytes t)).mapError .undecodable)
      ∧ Client.behind stream texts.length = tail := by
  intro stream
  constructor
  · refine List.ext_getElem (by simp) fun k hk hk' => ?_
    rw [List.getElem_map, List.getElem_map, List.getElem_range]
    exact Client.message_frames hsize tail (by simpa using hk')
  · have hend := Client.behind_frames hsize tail (Nat.le_refl texts.length)
    rw [List.drop_length] at hend
    exact hend

namespace Sample

/-- Texts that are hard to tell from what stands around them: a reply behind a blank line, a text
that is a header, no text at all, and a reply with fewer characters than bytes. -/
def texts : List String :=
  ["\r\n\r\n\x7b\"id\": 1,\n\"result\": 7\x7d", "Content-Length: 3\r\n\r\n", "",
    "\x7b\"id\": 2, \"result\": \"größer\"\x7d"]

/-- The first and the last of them are objects, and the others are no values at all. -/
theorem read_texts : texts.map (fun t => Document.read (Text.bytes t)) =
    [⟨.ofJson (.object [("id", .int 1), ("result", .int 7)]), false⟩,
      ⟨.broken .expectedValue .expectedValue, false⟩, ⟨.broken .endOfValue .endOfValue, false⟩,
      ⟨.ofJson (.object [("id", .int 2), ("result", .text "größer")]), false⟩] := by
  decide +kernel

end Sample

/-- The first and the last of them are read, although the others cannot be, and a further header
line behind them stays where it is. -/
theorem messages_of_sample :
    let tail := arrivals (Text.bytes "Content-Length: 9\r\n")
    let stream := arrivals (Sample.texts.flatMap frame) ++ tail
    (∀ t ∈ Sample.texts, t.utf8ByteSize ≤ maxMessageBytes)
      ∧ ((List.range 4).map (Client.message stream)).map Except.isOk = [true, false, false, true]
      ∧ Client.behind stream 4 = tail := by
  intro tail stream
  have hsize : ∀ t ∈ Sample.texts, t.utf8ByteSize ≤ maxMessageBytes := by decide
  obtain ⟨hmessages, hend⟩ := messages_of_frames hsize tail
  refine ⟨hsize, ?_, hend⟩
  rw [show List.range 4 = List.range Sample.texts.length from rfl, hmessages]
  have hread := Sample.read_texts
  injection hread with hfirst hread
  injection hread with hheader hread
  injection hread with hnothing hread
  injection hread with hlast
  show [(Client.readText _).isOk, (Client.readText _).isOk, (Client.readText _).isOk,
    (Client.readText _).isOk] = _
  rw [Client.isOk_readText hfirst, Client.isOk_readText hheader, Client.isOk_readText hnothing,
    Client.isOk_readText hlast]
  cbv

end Server

end CallExplorer
