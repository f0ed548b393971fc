/-
The messages that are accepted.

A header is a block of lines that ends with the first blank one (`IsHeader`). A line that has the
name of the length in front of its first colon must give a number of 64 bits, and the last such
line counts; all other lines may say what they like. A message is read if and only if the stream
begins with a header and as many bytes as it promises, and these make up a reply
(`readReply_eq_ok_iff`). One direction feeds a header to the reader line by line; the other follows
the calls of the reader and collects the lines that it took.

# The end of the stream

A line may also end because the stream does, and a blank one then ends the header. But nothing is
left for the body, and there is no reply in no bytes. So the lines of a message that is read all
have their line feeds.

# Lines that say something else

A line that is neither blank nor about the length may stand anywhere before the blank one. It is
passed over without a trace, so two streams that differ in such a line come to the same, whatever
stands in front of it and behind (`readHeader_behind`). Only what is left behind a line in front
that is refused still holds the difference.

# What this closes

`readReply_accepts`, for every stream.
-/
import CallExplorer.Proofs.Server.Framing
import CallExplorer.Server.Client
import Mathlib.Algebra.Group.Nat.Defs

namespace CallExplorer

namespace Server

-- ============================================ the grammar

/-- A line with nothing but blanks. -/
def IsBlank (line : String) : Prop := Text.trim line.toList = []

/-- The line is about the length: in front of its first colon it has the name of that, in any
case, and behind it `raw`, both less their outer blanks. -/
def TellsLength (line : String) (raw : List Char) : Prop :=
  ∃ name value, ':' ∉ name ∧ line.toList = name ++ ':' :: value
    ∧ Text.eqIgnoreCase (String.ofList (Text.trim name)) "content-length" = true
    ∧ raw = Text.trim value

/-- A length as it may be written. -/
def IsLength (raw : List Char) (n : Nat) : Prop := Text.IsNumeral raw n ∧ n < 2 ^ 64

/-- A line that says something else than the length. -/
def Unconcerned (line : String) : Prop := ∀ raw, ¬ TellsLength line raw

/-- The last of the lines that are about the length gives this one. -/
def LastLength (lines : List String) (n : Nat) : Prop :=
  ∃ before line after raw, lines = before ++ line :: after ∧ TellsLength line raw
    ∧ IsLength raw n ∧ ∀ l ∈ after, Unconcerned l

/-- A line that may stand in a header before the blank one. -/
structure IsHeaderLine (line : String) : Prop where
  isLine : IsLine (Text.bytes line)
  notBlank : ¬ IsBlank line
  isNumber : ∀ raw, TellsLength line raw → ∃ k, IsLength raw k

/-- The lines make up a header that promises so many bytes. -/
structure IsHeader (lines : List String) (last : String) (n : Nat) : Prop where
  headerLine : ∀ l ∈ lines, IsHeaderLine l
  length : LastLength lines n
  lastLine : IsLine (Text.bytes last)
  lastBlank : IsBlank last

/-- The bytes of a header. -/
def headerBytes (lines : List String) (last : String) : List UInt8 :=
  lines.flatMap Text.bytes ++ Text.bytes last

-- ============================================ what lines say

theorem ofLine_eq_length_iff {line : String} {raw : List Char} :
    HeaderLine.ofLine line.toList = .length raw ↔ TellsLength line raw := by
  constructor
  · intro h
    by_cases hcolon : ':' ∈ line.toList
    · obtain ⟨name, value, hline, hname⟩ := List.eq_append_cons_of_mem hcolon
      rw [hline, ofLine_colon hname] at h
      split at h
      next hlength =>
        injection h with hraw
        exact ⟨name, value, hname, hline, hlength, hraw.symm⟩
      next => cases h
    · have hnone : ∀ c ∈ Text.trim line.toList, (c != ':') = true := by
        intro c hc
        exact bne_iff_ne.2 fun heq => hcolon (heq ▸ Text.mem_of_mem_trim hc)
      have hempty : (Text.trim line.toList).dropWhile (· != ':') = [] :=
        List.dropWhile_eq_nil_iff.2 hnone
      unfold HeaderLine.ofLine at h
      split at h
      next => cases h
      next =>
        rw [hempty] at h
        cases h
  · rintro ⟨name, value, hname, hline, hlength, rfl⟩
    rw [hline, ofLine_colon hname, if_pos hlength]

theorem ofLine_eq_blank_iff {line : String} :
    HeaderLine.ofLine line.toList = .blank ↔ IsBlank line := by
  unfold HeaderLine.ofLine IsBlank
  constructor
  · intro h
    split at h
    next hnil => exact hnil
    next =>
      split at h
      next => cases h
      next =>
        dsimp only at h
        split at h <;> cases h
  · intro h
    rw [h]

theorem unconcerned_of_other {line : String} (h : HeaderLine.ofLine line.toList = .other) :
    Unconcerned line := by
  intro raw hraw
  rw [ofLine_eq_length_iff.2 hraw] at h
  cases h

theorem ofLine_eq_other {line : String} (hblank : ¬ IsBlank line) (hother : Unconcerned line) :
    HeaderLine.ofLine line.toList = .other := by
  cases h : HeaderLine.ofLine line.toList with
  | blank => exact absurd (ofLine_eq_blank_iff.1 h) hblank
  | length raw => exact absurd (ofLine_eq_length_iff.1 h) (hother raw)
  | other => rfl

theorem readNat_length {raw : List Char} {n : Nat} :
    Text.readNat Text.max64 raw = .ok n ↔ IsLength raw n := by
  have hmax : n ≤ Text.max64 ↔ n < 2 ^ 64 := by
    show n ≤ 18446744073709551615 ↔ n < 18446744073709551616
    omega
  rw [Text.readNat_eq_ok_iff, hmax, IsLength]

/-- A line that says nothing of interest may stand in a header. -/
theorem isHeaderLine_of_other {line : String} (hline : IsLine (Text.bytes line))
    (h : HeaderLine.ofLine line.toList = .other) : IsHeaderLine line := by
  refine ⟨hline, fun hblank => ?_, fun raw htells => ?_⟩
  · rw [ofLine_eq_blank_iff.2 hblank] at h
    cases h
  · exact absurd htells (unconcerned_of_other h raw)

/-- So may a line that gives a length. -/
theorem isHeaderLine_of_length {line : String} {raw : List Char} {n : Nat}
    (hline : IsLine (Text.bytes line)) (h : HeaderLine.ofLine line.toList = .length raw)
    (hn : IsLength raw n) : IsHeaderLine line := by
  refine ⟨hline, fun hblank => ?_, fun raw' htells => ?_⟩
  · rw [ofLine_eq_blank_iff.2 hblank] at h
    cases h
  · rw [ofLine_eq_length_iff.2 htells] at h
    injection h with hraw
    exact ⟨n, hraw ▸ hn⟩

-- ============================================ headers are read

variable {found : Option Nat} {line : String} {lines : List String} {stream rest : List Arrival}

/-- A line that says something else changes nothing. -/
theorem readHeader_unconcerned (hline : IsHeaderLine line) (hother : Unconcerned line)
    (found : Option Nat) (rest : List Arrival) :
    readHeader found (arrivals (Text.bytes line) ++ rest) = readHeader found rest := by
  rw [readHeader_line hline.isLine, ofLine_eq_other hline.notBlank hother]

/-- A line about the length replaces the length found before. -/
theorem readHeader_length {raw : List Char} {n : Nat} (hline : IsLine (Text.bytes line))
    (htells : TellsLength line raw) (hn : IsLength raw n) (found : Option Nat)
    (rest : List Arrival) :
    readHeader found (arrivals (Text.bytes line) ++ rest) = readHeader (some n) rest := by
  rw [readHeader_line hline, ofLine_eq_length_iff.2 htells]
  simp only [readNat_length.2 hn]

/-- The blank line ends a header. -/
theorem readHeader_blank (hline : IsLine (Text.bytes line)) (hblank : IsBlank line)
    (found : Option Nat) (rest : List Arrival) :
    readHeader found (arrivals (Text.bytes line) ++ rest) = (.ok found, rest) := by
  rw [readHeader_line hline, ofLine_eq_blank_iff.2 hblank]

/-- Lines leave some length or other, whatever follows them. -/
theorem readHeader_lines (h : ∀ l ∈ lines, IsHeaderLine l) (found : Option Nat) :
    ∃ left, ∀ rest, readHeader found (arrivals (lines.flatMap Text.bytes) ++ rest)
      = readHeader left rest := by
  induction lines generalizing found with
  | nil => exact ⟨found, fun _ => rfl⟩
  | cons l ls ih =>
      have hl := h l List.mem_cons_self
      have hstep : ∃ left, ∀ rest,
          readHeader found (arrivals (Text.bytes l) ++ rest) = readHeader left rest := by
        by_cases htells : ∃ raw, TellsLength l raw
        · obtain ⟨raw, htells⟩ := htells
          obtain ⟨n, hn⟩ := hl.isNumber raw htells
          exact ⟨some n, readHeader_length hl.isLine htells hn found⟩
        · exact ⟨found, readHeader_unconcerned hl (not_exists.1 htells) found⟩
      obtain ⟨middle, hmiddle⟩ := hstep
      obtain ⟨left, hleft⟩ := ih (fun x hx => h x (List.mem_cons_of_mem l hx)) middle
      refine ⟨left, fun rest => ?_⟩
      rw [List.flatMap_cons, arrivals_append, List.append_assoc, hmiddle, hleft]

/-- Lines that all say something else leave the length as it was. -/
theorem readHeader_others (h : ∀ l ∈ lines, IsHeaderLine l) (hother : ∀ l ∈ lines, Unconcerned l)
    (found : Option Nat) (rest : List Arrival) :
    readHeader found (arrivals (lines.flatMap Text.bytes) ++ rest) = readHeader found rest := by
  induction lines with
  | nil => rfl
  | cons l ls ih =>
      rw [List.flatMap_cons, arrivals_append, List.append_assoc,
        readHeader_unconcerned (h l List.mem_cons_self) (hother l List.mem_cons_self)]
      exact ih (fun x hx => h x (List.mem_cons_of_mem l hx))
        fun x hx => hother x (List.mem_cons_of_mem l hx)

/-- A header is read as the length it promises. -/
theorem readHeader_isHeader {last : String} {n : Nat} (h : IsHeader lines last n)
    (rest : List Arrival) :
    readHeader none (arrivals (headerBytes lines last) ++ rest) = (.ok (some n), rest) := by
  obtain ⟨before, l, after, raw, rfl, htells, hn, hafter⟩ := h.length
  have hbefore : ∀ x ∈ before, IsHeaderLine x := fun x hx =>
    h.headerLine x (List.mem_append_left _ hx)
  have hl := h.headerLine l (List.mem_append_right before List.mem_cons_self)
  have hlines : ∀ x ∈ after, IsHeaderLine x := fun x hx =>
    h.headerLine x (List.mem_append_right before (List.mem_cons_of_mem l hx))
  obtain ⟨left, hleft⟩ := readHeader_lines hbefore none
  simp only [headerBytes, List.flatMap_append, List.flatMap_cons, arrivals_append,
    List.append_assoc]
  rw [hleft, readHeader_length hl.isLine htells hn, readHeader_others hlines hafter,
    readHeader_blank h.lastLine h.lastBlank]

-- ============================================ what is read is a header

/-- A line behind which something is left had its line feed. -/
theorem readLineFrom_ok {sofar bs : List UInt8}
    (h : readLineFrom sofar stream = (.ok bs, rest)) (hrest : rest ≠ []) :
    ∃ more, IsLine more ∧ bs = sofar.reverse ++ more ∧ stream = arrivals more ++ rest := by
  induction stream generalizing sofar with
  | nil =>
      rw [readLineFrom] at h
      obtain ⟨-, hnil⟩ := Prod.mk.inj h
      exact absurd hnil.symm hrest
  | cons a stream ih =>
      cases a with
      | failure reason =>
          rw [readLineFrom] at h
          cases h
      | byte b =>
          rw [readLineFrom] at h
          by_cases hb : b = 0x0A
          · rw [if_pos hb] at h
            obtain ⟨hbs, hstream⟩ := Prod.mk.inj h
            injection hbs with hbs
            refine ⟨[b], ⟨[], List.not_mem_nil, by rw [hb]; rfl⟩, ?_, by rw [hstream]; rfl⟩
            rw [← hbs, List.reverse_cons]
          · rw [if_neg hb] at h
            obtain ⟨more, ⟨front, hfront, rfl⟩, hbs, hstream⟩ := ih h
            refine ⟨b :: (front ++ [0x0A]), ⟨b :: front, ?_, rfl⟩, ?_, by rw [hstream]; rfl⟩
            · rw [List.mem_cons, not_or]
              exact ⟨Ne.symm hb, hfront⟩
            · rw [hbs, List.reverse_cons, List.append_assoc]
              rfl

/-- Bytes that were read stood in the stream. -/
theorem readExactlyFrom_ok {sofar body : List UInt8} {n : Nat}
    (h : readExactlyFrom sofar n stream = (.ok body, rest)) :
    ∃ more, more.length = n ∧ body = sofar.reverse ++ more ∧ stream = arrivals more ++ rest := by
  induction n generalizing sofar stream with
  | zero =>
      rw [readExactlyFrom] at h
      obtain ⟨hbody, hstream⟩ := Prod.mk.inj h
      injection hbody with hbody
      exact ⟨[], rfl, by rw [← hbody, List.append_nil], hstream⟩
  | succ n ih =>
      cases stream with
      | nil =>
          rw [readExactlyFrom] at h
          cases h
      | cons a stream =>
          cases a with
          | failure reason =>
              rw [readExactlyFrom] at h
              cases h
          | byte b =>
              rw [readExactlyFrom] at h
              obtain ⟨more, hlength, hbody, hstream⟩ := ih h
              refine ⟨b :: more, by rw [List.length_cons, hlength], ?_, by rw [hstream]; rfl⟩
              rw [hbody, List.reverse_cons, List.append_assoc]
              rfl

/-- What lines leave of the length that was found before them. -/
def Leaves (found : Option Nat) (lines : List String) (left : Option Nat) : Prop :=
  (∃ n, left = some n ∧ LastLength lines n) ∨ left = found ∧ ∀ l ∈ lines, Unconcerned l

theorem LastLength.cons {n : Nat} (h : LastLength lines n) (l : String) :
    LastLength (l :: lines) n := by
  obtain ⟨before, line, after, raw, rfl, hline⟩ := h
  exact ⟨l :: before, line, after, raw, rfl, hline⟩

/-- A line that says something else has no part in it. -/
theorem Leaves.other {left : Option Nat} (h : Leaves found lines left) (hother : Unconcerned line) :
    Leaves found (line :: lines) left := by
  rcases h with ⟨n, hleft, hn⟩ | ⟨hleft, hnone⟩
  · exact .inl ⟨n, hleft, hn.cons line⟩
  · exact .inr ⟨hleft, List.forall_mem_cons.2 ⟨hother, hnone⟩⟩

/-- A line about the length counts if no later one does. -/
theorem Leaves.length {left : Option Nat} {raw : List Char} {n : Nat}
    (h : Leaves (some n) lines left) (htells : TellsLength line raw) (hn : IsLength raw n) :
    Leaves found (line :: lines) left := by
  rcases h with ⟨m, hleft, hm⟩ | ⟨hleft, hnone⟩
  · exact .inl ⟨m, hleft, hm.cons line⟩
  · exact .inl ⟨n, hleft, [], line, lines, raw, rfl, htells, hn, hnone⟩

/-- A text that was read as a line, with something left behind it, is that line. -/
theorem readLine_ok {bs : List UInt8} {text : String} (h : readLine stream = (.ok bs, rest))
    (hrest : rest ≠ []) (htext : Text.ofBytes? bs = some text) :
    IsLine (Text.bytes text) ∧ stream = arrivals (Text.bytes text) ++ rest := by
  obtain ⟨line, hline, hbs, hstream⟩ := readLineFrom_ok h hrest
  rw [Text.bytes_of_ofBytes? htext, hbs]
  exact ⟨hline, hstream⟩

/-- What the reader of headers took, if something is left behind it, are lines and a blank one. -/
theorem readHeader_ok {left : Option Nat} (h : readHeader found stream = (.ok left, rest))
    (hrest : rest ≠ []) :
    ∃ lines last, (∀ l ∈ lines, IsHeaderLine l) ∧ IsLine (Text.bytes last) ∧ IsBlank last
      ∧ Leaves found lines left ∧ stream = arrivals (headerBytes lines last) ++ rest := by
  fun_induction readHeader found stream with
  | case1 found => cases h
  | case2 found stream hstream e more hread => cases h
  | case3 found stream hstream bs more hread _ hnotText => cases h
  | case4 found stream hstream bs more hread _ text htext hblank =>
      obtain ⟨hleft, rfl⟩ := Prod.mk.inj h
      injection hleft with hleft
      obtain ⟨hline, rfl⟩ := readLine_ok hread hrest htext
      exact ⟨[], text, by simp, hline, ofLine_eq_blank_iff.1 hblank,
        .inr ⟨hleft.symm, by simp⟩, rfl⟩
  | case5 found stream hstream bs more hread _ text htext hother ih =>
      obtain ⟨lines, last, hlines, hlast, hblank, hleaves, rfl⟩ := ih h
      have hmore : arrivals (headerBytes lines last) ++ rest ≠ [] := by simp [hrest]
      obtain ⟨hline, rfl⟩ := readLine_ok hread hmore htext
      refine ⟨text :: lines, last, ?_, hlast, hblank,
        hleaves.other (unconcerned_of_other hother), ?_⟩
      · exact List.forall_mem_cons.2 ⟨isHeaderLine_of_other hline hother, hlines⟩
      · simp only [headerBytes, List.flatMap_cons, arrivals_append, List.append_assoc]
  | case6 found stream hstream bs more hread _ text htext raw hlength why hbad => cases h
  | case7 found stream hstream bs more hread _ text htext raw hlength n hgood ih =>
      obtain ⟨lines, last, hlines, hlast, hblank, hleaves, rfl⟩ := ih h
      have hmore : arrivals (headerBytes lines last) ++ rest ≠ [] := by simp [hrest]
      obtain ⟨hline, rfl⟩ := readLine_ok hread hmore htext
      have hn := readNat_length.1 hgood
      refine ⟨text :: lines, last, ?_, hlast, hblank,
        hleaves.length (ofLine_eq_length_iff.1 hlength) hn, ?_⟩
      · exact List.forall_mem_cons.2 ⟨isHeaderLine_of_length hline hlength hn, hlines⟩
      · simp only [headerBytes, List.flatMap_cons, arrivals_append, List.append_assoc]

/-- If it found a length where there was none, they are a header. -/
theorem isHeader_of_readHeader {n : Nat} (h : readHeader none stream = (.ok (some n), rest))
    (hrest : rest ≠ []) :
    ∃ lines last, IsHeader lines last n ∧ stream = arrivals (headerBytes lines last) ++ rest := by
  obtain ⟨lines, last, hlines, hlast, hblank, hleaves, hstream⟩ := readHeader_ok h hrest
  refine ⟨lines, last, ⟨hlines, ?_, hlast, hblank⟩, hstream⟩
  rcases hleaves with ⟨m, hm, hlength⟩ | ⟨hnone, -⟩
  · injection hm with hm
    exact hm ▸ hlength
  · cases hnone

-- ============================================ whole messages

/-- A body was promised by what stands before it, and is as long as that says. -/
theorem readFrame_ok {body : List UInt8} (h : readFrame stream = (.ok body, rest)) :
    readHeader none stream = (.ok (some body.length), arrivals body ++ rest)
      ∧ body.length ≤ maxMessageBytes := by
  unfold readFrame at h
  rcases hheader : readHeader none stream with ⟨e | _ | n, left⟩
  · rw [hheader] at h
    cases h
  · rw [hheader] at h
    cases h
  · simp only [hheader] at h
    split at h
    next => cases h
    next hsize =>
      obtain ⟨more, hlength, hmore, hleft⟩ := readExactlyFrom_ok h
      obtain rfl : body = more := hmore
      rw [hlength, hleft]
      exact ⟨rfl, Nat.le_of_not_lt hsize⟩

namespace Client

/-- There is no reply in no bytes. -/
theorem ofBody_nil :
    Reply.ofBody [] = .error ⟨.malformed .endOfValue, some []⟩ := rfl

/-- A message is read if and only if it is a header and a body with a reply in it, and just these
are taken. -/
theorem readReply_eq_ok_iff {r : Reply} :
    readReply stream = (.ok r, rest) ↔
      ∃ lines last body, IsHeader lines last body.length ∧ body.length ≤ maxMessageBytes
        ∧ Reply.ofBody body = .ok r
        ∧ stream = arrivals (headerBytes lines last ++ body) ++ rest := by
  constructor
  · intro h
    unfold readReply at h
    rcases hframe : readFrame stream with ⟨e | body, after⟩
    · rw [hframe] at h
      cases h
    · rw [hframe] at h
      obtain ⟨hreply, rfl⟩ := Prod.mk.inj h
      cases hread : Reply.ofBody body with
      | error e =>
          rw [hread] at hreply
          cases hreply
      | ok r' =>
          rw [hread] at hreply
          cases hreply
          obtain ⟨hheader, hsize⟩ := readFrame_ok hframe
          -- the header did not end with the stream, since there is something in the body
          have hne : arrivals body ++ after ≠ [] := by
            intro hnil
            obtain ⟨hempty, -⟩ := List.append_eq_nil_iff.1 hnil
            rw [List.map_eq_nil_iff.1 hempty, ofBody_nil] at hread
            cases hread
          obtain ⟨lines, last, hlines, rfl⟩ := isHeader_of_readHeader hheader hne
          refine ⟨lines, last, body, hlines, hsize, hread, ?_⟩
          rw [arrivals_append, List.append_assoc]
  · rintro ⟨lines, last, body, hheader, hsize, hreply, rfl⟩
    have hbody := readExactlyFrom_eq body rest []
    have hframe : readFrame (arrivals (headerBytes lines last ++ body) ++ rest)
        = (.ok body, rest) := by
      rw [readFrame, arrivals_append, List.append_assoc, readHeader_isHeader hheader]
      simp only [if_neg (Nat.not_lt.2 hsize)]
      exact hbody
    rw [readReply, hframe]
    simp only [hreply]
    rfl

/-- A header that promises too much is all that is taken. -/
theorem readReply_tooLong {last : String} {n : Nat} (h : IsHeader lines last n)
    (hsize : maxMessageBytes < n) (rest : List Arrival) :
    readReply (arrivals (headerBytes lines last) ++ rest)
      = (.error (.stream (.tooLong n)), rest) := by
  rw [readReply, readFrame, readHeader_isHeader h]
  simp only [if_pos hsize]

end Client

-- ============================================ lines that say something else

/-- Bytes that are a line, but not a blank one. -/
def IsOpenLine (bs : List UInt8) : Prop :=
  IsLine bs ∧ ∀ text, Text.ofBytes? bs = some text → ¬ IsBlank text

/-- A line that no header may have: it is no text, or it is about the length and gives none. -/
def IsRefused (bs : List UInt8) : Prop :=
  ∀ text, Text.ofBytes? bs = some text →
    ∃ raw, TellsLength text raw ∧ ∀ n, ¬ IsLength raw n

/-- Behind a line that is not blank the header goes on, or the line is refused. -/
theorem readHeader_open {bs : List UInt8} (h : IsOpenLine bs) (found : Option Nat) :
    (∃ left, ∀ rest, readHeader found (arrivals bs ++ rest) = readHeader left rest)
      ∨ IsRefused bs ∧ ∃ e, ∀ rest, readHeader found (arrivals bs ++ rest) = (.error e, rest) := by
  obtain ⟨hline, hnotBlank⟩ := h
  have hread : ∀ rest, _ := fun rest =>
    readHeader_of_line (by simp [arrivals, hline.ne_nil]) (readLine_line hline rest) found
  cases htext : Text.ofBytes? bs with
  | none =>
      right
      refine ⟨fun text heq => absurd (htext.symm.trans heq) (by simp), .notText, fun rest => ?_⟩
      rw [hread, htext]
  | some text =>
      simp only [htext] at hread
      cases hsays : HeaderLine.ofLine text.toList with
      | blank => exact absurd (ofLine_eq_blank_iff.1 hsays) (hnotBlank text htext)
      | other =>
          left
          refine ⟨found, fun rest => ?_⟩
          rw [hread, hsays]
      | length raw =>
          cases hnumber : Text.readNat Text.max64 raw with
          | ok n =>
              left
              refine ⟨some n, fun rest => ?_⟩
              rw [hread, hsays]
              simp only [hnumber]
          | error why =>
              right
              refine ⟨fun text' heq => ?_, .badLength (String.ofList raw) why, fun rest => ?_⟩
              · cases htext.symm.trans heq
                refine ⟨raw, ofLine_eq_length_iff.1 hsays, fun n hn => ?_⟩
                rw [readNat_length.2 hn] at hnumber
                cases hnumber
              · rw [hread, hsays]
                simp only [hnumber]

/-- Streams that come to the same do so behind any lines that are not blank, unless one of these
lines is refused; then both come to the same complaint. -/
theorem readHeader_behind {s t : List Arrival}
    (hsame : ∀ found, readHeader found s = readHeader found t) {before : List (List UInt8)}
    (hopen : ∀ bs ∈ before, IsOpenLine bs) (found : Option Nat) :
    readHeader found (arrivals before.flatten ++ s)
        = readHeader found (arrivals before.flatten ++ t)
      ∨ (∃ bs ∈ before, IsRefused bs) ∧ ∃ e s' t',
          readHeader found (arrivals before.flatten ++ s) = (.error e, s')
            ∧ readHeader found (arrivals before.flatten ++ t) = (.error e, t') := by
  induction before generalizing found with
  | nil => exact .inl (hsame found)
  | cons bs before ih =>
      have hrest := fun found => ih (fun x hx => hopen x (List.mem_cons_of_mem bs hx)) found
      simp only [List.flatten_cons, arrivals_append, List.append_assoc]
      rcases readHeader_open (hopen bs List.mem_cons_self) found with
        ⟨left, hleft⟩ | ⟨hrefused, e, he⟩
      · rw [hleft, hleft]
        rcases hrest left with hequal | ⟨⟨x, hx, hrefused⟩, hboth⟩
        · exact .inl hequal
        · exact .inr ⟨⟨x, List.mem_cons_of_mem bs hx, hrefused⟩, hboth⟩
      · exact .inr ⟨⟨bs, List.mem_cons_self, hrefused⟩, e, _, _, he _, he _⟩

namespace Client

/-- So do messages. -/
theorem readReply_behind_lines {s t : List Arrival}
    (hsame : ∀ found, readHeader found s = readHeader found t)
    {before : List (List UInt8)} (hopen : ∀ bs ∈ before, IsOpenLine bs) :
    readReply (arrivals before.flatten ++ s) = readReply (arrivals before.flatten ++ t)
      ∨ (∃ bs ∈ before, IsRefused bs) ∧ ∃ e s' t',
          readReply (arrivals before.flatten ++ s) = (.error e, s')
            ∧ readReply (arrivals before.flatten ++ t) = (.error e, t') := by
  rcases readHeader_behind hsame hopen none with hequal | ⟨hrefused, e, s', t', hs, ht⟩
  · left
    rw [readReply, readReply, readFrame, readFrame, hequal]
  · right
    refine ⟨hrefused, .stream e, s', t', ?_, ?_⟩
    · rw [readReply, readFrame, hs]
    · rw [readReply, readFrame, ht]

end Client

open Client in
/-- For every stream. A reply is read from it if and only if it begins with a header, as many bytes
as the last length in the header says, which are 64 MiB at most, and these bytes are a reply; then
this reply is read, and just these bytes are taken. A header that promises more is all that is
taken, and the reading fails. And a line that is neither blank nor about the length may be put in
behind any lines that are not blank, or taken out: what comes of the reading stays the same, and
so does what is left, unless one of the lines in front is refused before the reader gets there. -/
theorem readReply_accepts (stream : List Arrival) :
    (∀ r rest, readReply stream = (.ok r, rest) ↔
        ∃ lines last body, IsHeader lines last body.length ∧ body.length ≤ 64 * 1024 * 1024
          ∧ Reply.ofBody body = .ok r
          ∧ stream = arrivals (headerBytes lines last ++ body) ++ rest)
      ∧ (∀ lines last n rest, IsHeader lines last n → 64 * 1024 * 1024 < n →
        stream = arrivals (headerBytes lines last) ++ rest →
          readReply stream = (.error (.stream (.tooLong n)), rest))
      ∧ ∀ (before : List (List UInt8)) line after, (∀ bs ∈ before, IsOpenLine bs) →
        IsLine (Text.bytes line) → ¬ IsBlank line → Unconcerned line →
        stream = arrivals before.flatten ++ after →
          let padded := arrivals (before.flatten ++ Text.bytes line) ++ after
          (readReply padded).1 = (readReply stream).1
            ∧ ((∀ bs ∈ before, ¬ IsRefused bs) → (readReply padded).2 = (readReply stream).2) := by
  refine ⟨fun r rest => readReply_eq_ok_iff, ?_, ?_⟩
  · rintro lines last n rest hheader hsize rfl
    exact readReply_tooLong hheader hsize rest
  · rintro before line after hopen hline hnotBlank hother rfl padded
    have hpassed : ∀ found,
        readHeader found (arrivals (Text.bytes line) ++ after) = readHeader found after := by
      intro found
      exact readHeader_unconcerned (isHeaderLine_of_other hline (ofLine_eq_other hnotBlank hother))
        hother found after
    have hpadded : padded = arrivals before.flatten ++ (arrivals (Text.bytes line) ++ after) := by
      show arrivals (before.flatten ++ Text.bytes line) ++ after = _
      rw [arrivals_append, List.append_assoc]
    rw [hpadded]
    rcases readReply_behind_lines hpassed hopen with
      hequal | ⟨⟨bs, hbs, hrefused⟩, e, s', t', hs, ht⟩
    · rw [hequal]
      exact ⟨rfl, fun _ => rfl⟩
    · rw [hs, ht]
      exact ⟨rfl, fun hnone => absurd hrefused (hnone bs hbs)⟩

namespace OddHeader

/-- A header with two lengths, of which the last counts, and names in any case. -/
def front : List String := ["no colon\n", " CONTENT-length : 7 \r\n", "content-LENGTH:+2\n"]

/-- A line of a space that does not break and a carriage return. -/
def last : String := "\u00a0\r\n"

/-- An object without members. -/
def body : List UInt8 := [0x7B, 0x7D]

/-- The beginning of a further message. -/
def tail : List Arrival := arrivals (Text.bytes "Content-")

theorem isLine : ∀ l ∈ last :: front, IsLine (Text.bytes l) := by
  have hended : ∀ l ∈ last :: front, (Text.bytes l).getLast? = some 0x0A
      ∧ 0x0A ∉ (Text.bytes l).dropLast := by decide
  intro l hl
  obtain ⟨hlast, hinside⟩ := hended l hl
  obtain ⟨inside, hbytes⟩ := List.getLast?_eq_some_iff.1 hlast
  rw [hbytes, List.dropLast_concat] at hinside
  exact ⟨inside, hinside, hbytes⟩

theorem isHeader : IsHeader front last body.length := by
  have hsays : ∀ l ∈ front, HeaderLine.ofLine l.toList = .other
      ∨ HeaderLine.ofLine l.toList = .length ['7']
      ∨ HeaderLine.ofLine l.toList = .length ['+', '2'] := by
    decide
  have hseven : IsLength ['7'] 7 := readNat_length.1 (by decide)
  have htwo : IsLength ['+', '2'] 2 := readNat_length.1 (by decide)
  refine ⟨fun l hl => ?_, ?_, isLine last List.mem_cons_self, by unfold IsBlank; decide⟩
  · have hline := isLine l (List.mem_cons_of_mem last hl)
    rcases hsays l hl with h | h | h
    · exact isHeaderLine_of_other hline h
    · exact isHeaderLine_of_length hline h hseven
    · exact isHeaderLine_of_length hline h htwo
  · exact ⟨front.take 2, "content-LENGTH:+2\n", [], ['+', '2'], by decide,
      ofLine_eq_length_iff.1 (by decide), htwo, by simp⟩

end OddHeader

/-- The message is read, and the beginning of the next one stays where it is. -/
theorem odd_header_accepted :
    IsHeader OddHeader.front OddHeader.last OddHeader.body.length
      ∧ ∃ r, Client.readReply (arrivals (headerBytes OddHeader.front OddHeader.last
          ++ OddHeader.body) ++ OddHeader.tail) = (.ok r, OddHeader.tail) := by
  obtain ⟨r, hr⟩ : ∃ r, Reply.ofBody OddHeader.body = .ok r := ⟨_, by cbv⟩
  refine ⟨OddHeader.isHeader, r, ((readReply_accepts _).1 r OddHeader.tail).2 ?_⟩
  exact ⟨OddHeader.front, OddHeader.last, OddHeader.body, OddHeader.isHeader, by decide, hr, rfl⟩

end Server

end CallExplorer
