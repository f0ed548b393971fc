/-
Strings are read as they are written.

A scan of a string holds the bytes decoded so far, the last first, so a scan that went well is
the scan of some characters (`Scan.of`). Each way of writing a character takes the scan of what
came before to the scan with that character more (`readText_chars`), and at the closing quote the
bytes are a text again, because characters put them there.
-/
import CallExplorer.Proofs.Json.Grammar
import CallExplorer.Proofs.Text.Utf8

namespace CallExplorer

namespace Doc

/-- The scan of a string in which these characters were read. -/
def Scan.of (cs : List Char) : Scan := ⟨(Text.bytes (String.ofList cs)).reverse, none, none⟩

theorem Scan.of_nil : Scan.of [] = Scan.start := rfl

theorem Scan.of_snoc (cs : List Char) (c : Char) :
    Scan.of (cs ++ [c])
      = { Scan.of cs with
          decoded := (String.utf8EncodeChar c).reverse ++ (Scan.of cs).decoded } := by
  simp only [Scan.of, Text.bytes_ofList, List.flatMap_append, List.flatMap_singleton,
    List.reverse_append]

/-- Taking a code point is taking its character. -/
theorem Scan.pushCode_of (cs : List Char) (n : Nat) :
    (Scan.of cs).pushCode n = Scan.of (cs ++ [Char.ofNat n]) := by
  have hsingle : Text.bytes (String.singleton (Char.ofNat n))
      = String.utf8EncodeChar (Char.ofNat n) := by
    rw [Text.bytes_eq_flatMap]
    simp
  rw [Scan.of_snoc, Scan.pushCode, hsingle]

/-- The scan of a string that is complete. -/
theorem Scan.finish_of (cs : List Char) : (Scan.of cs).finish = .ok (String.ofList cs) := by
  have hread : Text.ofBytes? (Scan.of cs).decoded.reverse = some (String.ofList cs) := by
    rw [Scan.of, List.reverse_reverse, Text.ofBytes?_bytes]
  have hproblem : (Scan.of cs).settle.problem = none := rfl
  simp only [Scan.finish, hproblem, hread]

-- ============================================ one step

theorem readText_close (s : Scan) (rest : List UInt8) :
    readText s (0x22 :: rest) = .ok (s.finish, rest) := by
  rw [readText.eq_def]
  rfl

/-- A byte that means nothing else is taken. -/
theorem readText_byte {b : UInt8} (hquote : b ≠ 0x22) (hslash : b ≠ 0x5C) (hcontrol : ¬ b < 0x20)
    (s : Scan) (rest : List UInt8) : readText s (b :: rest) = readText (s.push b) rest := by
  conv => lhs; rw [readText.eq_def]
  simp only [hquote, hslash, hcontrol, if_false]

/-- An escape of one letter is taken as the byte it stands for. -/
theorem readText_letter {e b : UInt8} (hu : e ≠ 0x75) (h : escapeByte? e = some b) (s : Scan)
    (rest : List UInt8) : readText s (0x5C :: e :: rest) = readText (s.push b) rest := by
  conv => lhs; rw [readText.eq_def]
  simp only [hu, h, if_false, if_true, show (0x5C : UInt8) ≠ 0x22 by decide]

/-- An escape with a number is taken as that 16-bit unit. -/
theorem readText_unit {a b c d : UInt8} {n : Nat} (h : hexUnit? a b c d = some n) (s : Scan)
    (rest : List UInt8) :
    readText s (0x5C :: 0x75 :: a :: b :: c :: d :: rest) = readText (s.pushUnit n) rest := by
  conv => lhs; rw [readText.eq_def]
  simp only [h, if_false, if_true, show (0x5C : UInt8) ≠ 0x22 by decide]

-- ============================================ one character

/-- Bytes that are neither quote nor backslash nor control are taken as they are. -/
theorem readText_plain {s : Scan} (hs : s.high = none) (rest : List UInt8) :
    ∀ {bs : List UInt8}, (∀ b ∈ bs, b ≠ 0x22 ∧ b ≠ 0x5C ∧ ¬ b < 0x20) →
      readText s (bs ++ rest) = readText { s with decoded := bs.reverse ++ s.decoded } rest := by
  intro bs
  induction bs generalizing s with
  | nil => intro _; rfl
  | cons b bs ih =>
      intro hbs
      obtain ⟨hquote, hslash, hcontrol⟩ := hbs b List.mem_cons_self
      have hsettle : s.settle = s := by rw [Scan.settle, hs]
      have hpush : s.push b = { s with decoded := b :: s.decoded } := by
        rw [Scan.push, hsettle]
      rw [List.cons_append, readText_byte hquote hslash hcontrol, hpush,
        ih (s := { s with decoded := b :: s.decoded }) hs
          fun x hx => hbs x (List.mem_cons_of_mem b hx)]
      simp

/-- No byte of a plain character means anything else in a string. -/
theorem plain_bytes {c : Char} (hquote : c ≠ '"') (hslash : c ≠ '\\') (hcontrol : 32 ≤ c.toNat) :
    ∀ b ∈ String.utf8EncodeChar c, b ≠ 0x22 ∧ b ≠ 0x5C ∧ ¬ b < 0x20 := by
  intro b hb
  -- an ASCII byte would be the character itself
  have hself (h : b.toNat < 128) : c.toNat = b.toNat := Text.eq_of_mem_utf8EncodeChar hb h
  refine ⟨?_, ?_, ?_⟩
  · rintro rfl
    exact hquote (Char.toNat_inj.1 (hself (by decide)))
  · rintro rfl
    exact hslash (Char.toNat_inj.1 (hself (by decide)))
  · intro hlt
    have hlt : b.toNat < 32 := UInt8.lt_iff_toNat_lt.1 hlt
    have := hself (by omega)
    omega

/-- A short escape is read as the byte of its character. -/
theorem escapeByte?_of_mem {e : UInt8} {c : Char} (h : (e, c) ∈ shortEscapes) :
    ∃ b, e ≠ 0x75 ∧ escapeByte? e = some b ∧ String.utf8EncodeChar c = [b] := by
  simp only [shortEscapes, List.mem_cons, Prod.mk.injEq, List.not_mem_nil, or_false] at h
  rcases h with ⟨rfl, rfl⟩ | ⟨rfl, rfl⟩ | ⟨rfl, rfl⟩ | ⟨rfl, rfl⟩ | ⟨rfl, rfl⟩ | ⟨rfl, rfl⟩
    | ⟨rfl, rfl⟩ | ⟨rfl, rfl⟩
  all_goals exact ⟨_, by decide, rfl, rfl⟩

theorem readText_short {e : UInt8} {c : Char} (h : (e, c) ∈ shortEscapes) (cs : List Char)
    (rest : List UInt8) :
    readText (Scan.of cs) (0x5C :: e :: rest) = readText (Scan.of (cs ++ [c])) rest := by
  obtain ⟨b, hu, hb, hc⟩ := escapeByte?_of_mem h
  rw [readText_letter hu hb, Scan.of_snoc, hc]
  rfl

theorem pushUnit_of {n : Nat} (hn : n < 0xD800 ∨ 0xDFFF < n) (cs : List Char) :
    (Scan.of cs).pushUnit n = Scan.of (cs ++ [Char.ofNat n]) := by
  rw [← Scan.pushCode_of]
  show (if 0xDC00 ≤ n ∧ n ≤ 0xDFFF then _ else if 0xD800 ≤ n ∧ n ≤ 0xDBFF then _ else _) = _
  rw [if_neg (by omega), if_neg (by omega)]

theorem pushUnit_pair {high low : Nat} (hhigh : 0xD800 ≤ high ∧ high ≤ 0xDBFF)
    (hlow : 0xDC00 ≤ low ∧ low ≤ 0xDFFF) (cs : List Char) :
    ((Scan.of cs).pushUnit high).pushUnit low
      = Scan.of (cs ++ [Char.ofNat (0x10000 + (high - 0xD800) * 0x400 + (low - 0xDC00))]) := by
  have hfirst : (Scan.of cs).pushUnit high = { Scan.of cs with high := some high } := by
    show (if 0xDC00 ≤ high ∧ high ≤ 0xDFFF then _
      else if 0xD800 ≤ high ∧ high ≤ 0xDBFF then _ else _) = _
    rw [if_neg (by omega), if_pos hhigh]
  rw [hfirst, ← Scan.pushCode_of]
  show (if 0xDC00 ≤ low ∧ low ≤ 0xDFFF then _ else _) = _
  rw [if_pos hlow]
  rfl

-- ============================================ the whole string

/-- Whatever characters were read before, the rest of a string is read as it is written. -/
theorem readText_chars {cs : List Char} {bs : List UInt8} (h : Chars cs bs) :
    ∀ (before : List Char) (rest : List UInt8),
      readText (Scan.of before) (bs ++ rest) = .ok (.ok (String.ofList (before ++ cs)), rest) := by
  induction h with
  | close =>
      intro before rest
      rw [List.singleton_append, readText_close, Scan.finish_of, List.append_nil]
  | @plain c cs bs hquote hslash hcontrol _ ih =>
      intro before rest
      rw [List.append_assoc, readText_plain rfl _ (plain_bytes hquote hslash hcontrol),
        ← Scan.of_snoc, ih, List.append_assoc, List.singleton_append]
  | short h _ ih =>
      intro before rest
      rw [List.cons_append, List.cons_append, readText_short h, ih, List.append_assoc,
        List.singleton_append]
  | unit h hn _ ih =>
      intro before rest
      simp only [List.cons_append]
      rw [readText_unit h, pushUnit_of hn, ih, List.append_assoc, List.singleton_append]
  | pair h hhigh h' hlow _ ih =>
      intro before rest
      simp only [List.cons_append]
      rw [readText_unit h, readText_unit h', pushUnit_pair hhigh hlow, ih, List.append_assoc,
        List.singleton_append]

/-- A string is read as it is written. -/
theorem readText_quoted {s : String} {bs : List UInt8} (h : Quoted s bs) (rest : List UInt8) :
    readText .start (bs ++ rest) = .ok (.ok s, rest) := by
  have := readText_chars h [] rest
  rwa [Scan.of_nil, List.nil_append, String.ofList_toList] at this

end Doc

end CallExplorer
