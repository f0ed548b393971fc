/-
Reading JSON texts into documents.

The reader works on the bytes of the text and never fails: where the text goes
wrong it leaves a broken leaf and stops. Strings are decoded in passing, numbers
are evaluated in passing, and what is wrong with them beyond their form stays in
the leaf. `Document.read` is the whole reader.
-/
import CallExplorer.Json.Document
import CallExplorer.Text.Bytes

namespace CallExplorer

namespace Doc

/-- Where a text goes wrong: the problem met in reading, and the one met in skipping. -/
structure Fault where
  whenRead : SyntaxError
  whenSkipped : SyntaxError

/-- A problem that is the same either way. -/
def Fault.same (e : SyntaxError) : Fault := ⟨e, e⟩

/-- The JSON blanks. -/
def isSpace (b : UInt8) : Bool := b == 0x20 || b == 0x0A || b == 0x0D || b == 0x09

/-- A text without its leading blanks. -/
def skipSpace (bs : List UInt8) : List UInt8 := bs.dropWhile isSpace

/-- Reads the rest of a literal. -/
def readLiteral : (expected : List UInt8) → List UInt8 → Except Fault (List UInt8)
  | [], bs => .ok bs
  | _ :: _, [] => .error (.same .endOfValue)
  | e :: es, b :: bs => if b = e then readLiteral es bs else .error (.same .expectedLiteral)

-- ============================================ numbers

/-- Whether a byte is a decimal digit. -/
def isDigit (b : UInt8) : Bool := 0x30 ≤ b && b ≤ 0x39

/-- The parts of a number as written. -/
structure Numeral where
  negative : Bool
  whole : List UInt8
  fraction : Option (List UInt8)
  exponent : Option (Bool × List UInt8)

/-- Appends digits to `n` as long as the result stays below 2^64; the digits from the
first that does not fit on are left over. -/
def appendFitting : Nat → List UInt8 → Nat × List UInt8
  | n, [] => (n, [])
  | n, d :: ds =>
    let n' := n * 10 + (d.toNat - 0x30)
    if n' < 18446744073709551616 then appendFitting n' ds else (n, d :: ds)

/-- The value of digits, if it is at most 2^31-1. -/
def smallValue? : Nat → List UInt8 → Option Nat
  | n, [] => some n
  | n, d :: ds =>
    let n' := n * 10 + (d.toNat - 0x30)
    if n' < 2147483648 then smallValue? n' ds else none

/-- The value of a numeral. Digits that do not fit into 64 bits count by their place only.
Without fraction and exponent it is whole, unless it is too large or a negative zero. -/
def Numeral.value (n : Numeral) : Except SyntaxError Number :=
  let (significand, left) := appendFitting 0 n.whole
  let (scaled, exponent) : Nat × Int :=
    match n.fraction with
    | none => (significand, left.length)
    | some ds =>
      let (s, unfit) := appendFitting significand ds
      (s, (left.length : Int) - ((ds.length - unfit.length : Nat) : Int))
  let double (e : Int) : Except SyntaxError Number :=
    match Double.ofDecimal? n.negative scaled e with
    | some x => .ok (.float x)
    | none => .error .numberOutOfRange
  match n.exponent with
  | some (down, ds) =>
    match smallValue? 0 ds with
    | some e => double (if down then exponent - e else exponent + e)
    | none =>
      if scaled ≠ 0 ∧ ¬down then .error .numberOutOfRange
      else .ok (.float (.zero n.negative))
  | none =>
    if n.fraction.isSome ∨ left ≠ [] then double exponent
    else if ¬n.negative then .ok (.int scaled)
    else if scaled ≠ 0 ∧ scaled ≤ 9223372036854775808 then .ok (.int (-(scaled : Int)))
    else double 0

/-- At the end of the text a number is unfinished to a reader and wrong to others. -/
def unfinishedNumber : List UInt8 → Fault
  | [] => ⟨.endOfValue, .invalidNumber⟩
  | _ :: _ => .same .invalidNumber

/-- Reads the digits before the point. A zero stands alone. -/
def readWhole : List UInt8 → Except Fault (List UInt8 × List UInt8)
  | [] => .error (unfinishedNumber [])
  | b :: bs =>
    if b = 0x30 then
      match bs with
      | d :: _ => if isDigit d then .error (.same .invalidNumber) else .ok ([b], bs)
      | [] => .ok ([b], bs)
    else if isDigit b then .ok (b :: bs.takeWhile isDigit, bs.dropWhile isDigit)
    else .error (.same .invalidNumber)

/-- Reads one or more digits. -/
def readDigits (bs : List UInt8) : Except Fault (List UInt8 × List UInt8) :=
  match bs.takeWhile isDigit with
  | [] => .error (unfinishedNumber bs)
  | ds => .ok (ds, bs.dropWhile isDigit)

/-- Reads the fraction, if there is one. -/
def readFraction : List UInt8 → Except Fault (Option (List UInt8) × List UInt8)
  | 0x2E :: bs => (readDigits bs).map fun (ds, rest) => (some ds, rest)
  | bs => .ok (none, bs)

/-- Reads the digits of an exponent, whose sign is known. -/
def readPower (down : Bool) (bs : List UInt8) :
    Except Fault (Option (Bool × List UInt8) × List UInt8) :=
  (readDigits bs).map fun (ds, rest) => (some (down, ds), rest)

/-- Reads the exponent, if there is one. -/
def readExponent : List UInt8 → Except Fault (Option (Bool × List UInt8) × List UInt8)
  | b :: bs =>
    if b = 0x65 ∨ b = 0x45 then
      match bs with
      | 0x2B :: bs => readPower false bs
      | 0x2D :: bs => readPower true bs
      | bs => readPower false bs
    else .ok (none, b :: bs)
  | [] => .ok (none, [])

/-- Reads a number, whose minus sign is gone already. -/
def readNumber (negative : Bool) (bs : List UInt8) : Except Fault (Numeral × List UInt8) := do
  let (whole, bs) ← readWhole bs
  let (fraction, bs) ← readFraction bs
  let (exponent, bs) ← readExponent bs
  .ok (⟨negative, whole, fraction, exponent⟩, bs)

-- ============================================ strings

/-- A string on the way: the bytes so far, the last first; a high surrogate that waits
for its partner; the first problem with what was decoded. -/
structure Scan where
  decoded : List UInt8
  high : Option Nat
  problem : Option SyntaxError

/-- Nothing read yet. -/
def Scan.start : Scan := ⟨[], none, none⟩

/-- Notes a problem, unless there is an earlier one. -/
def Scan.note (s : Scan) (e : SyntaxError) : Scan := { s with problem := s.problem.or (some e) }

/-- A high surrogate whose partner does not come is a problem. -/
def Scan.settle (s : Scan) : Scan :=
  match s.high with
  | none => s
  | some _ => { s.note .unfinishedSurrogate with high := none }

/-- Takes a byte. -/
def Scan.push (s : Scan) (b : UInt8) : Scan := { s.settle with decoded := b :: s.settle.decoded }

/-- Takes a code point that is no surrogate. -/
def Scan.pushCode (s : Scan) (n : Nat) : Scan :=
  { s with decoded := (Text.bytes (String.singleton (Char.ofNat n))).reverse ++ s.decoded }

/-- Takes an escaped 16-bit unit. Two surrogates, a high and a low one, make one code point. -/
def Scan.pushUnit (s : Scan) (n : Nat) : Scan :=
  match s.high with
  | some h =>
    if 0xDC00 ≤ n ∧ n ≤ 0xDFFF then
      { s with high := none }.pushCode (0x10000 + (h - 0xD800) * 0x400 + (n - 0xDC00))
    else { s.note .loneSurrogate with high := none }
  | none =>
    if 0xDC00 ≤ n ∧ n ≤ 0xDFFF then s.note .loneSurrogate
    else if 0xD800 ≤ n ∧ n ≤ 0xDBFF then { s with high := some n }
    else s.pushCode n

/-- The text at the closing quote. -/
def Scan.finish (s : Scan) : Except SyntaxError String :=
  match s.settle.problem with
  | some e => .error e
  | none =>
    match Text.ofBytes? s.decoded.reverse with
    | some t => .ok t
    | none => .error .invalidCodePoint

/-- A form error inside a string; to a reader an earlier problem comes first. -/
def Scan.fault (s : Scan) (e : SyntaxError) : Fault := ⟨s.problem.getD e, e⟩

/-- The value of a hexadecimal digit. -/
def hexValue? (b : UInt8) : Option Nat :=
  if 0x30 ≤ b ∧ b ≤ 0x39 then some (b.toNat - 0x30)
  else if 0x41 ≤ b ∧ b ≤ 0x46 then some (b.toNat - 0x37)
  else if 0x61 ≤ b ∧ b ≤ 0x66 then some (b.toNat - 0x57)
  else none

/-- The value of four hexadecimal digits. -/
def hexUnit? (a b c d : UInt8) : Option Nat := do
  let a ← hexValue? a
  let b ← hexValue? b
  let c ← hexValue? c
  let d ← hexValue? d
  some (((a * 16 + b) * 16 + c) * 16 + d)

/-- The byte that a one-letter escape stands for. -/
def escapeByte? (b : UInt8) : Option UInt8 :=
  if b = 0x22 ∨ b = 0x5C ∨ b = 0x2F then some b
  else if b = 0x62 then some 0x08
  else if b = 0x66 then some 0x0C
  else if b = 0x6E then some 0x0A
  else if b = 0x72 then some 0x0D
  else if b = 0x74 then some 0x09
  else none

/-- Reads a string up to and including its closing quote. -/
def readText (s : Scan) : List UInt8 → Except Fault (Except SyntaxError String × List UInt8)
  | [] => .error (s.fault .endOfText)
  | b :: rest =>
    if b = 0x22 then .ok (s.finish, rest)
    else if b = 0x5C then
      match rest with
      | [] => .error (s.fault .endOfText)
      | e :: rest =>
        if e = 0x75 then
          match rest with
          | a :: b :: c :: d :: rest =>
            match hexUnit? a b c d with
            | some n => readText (s.pushUnit n) rest
            | none => .error (s.fault .invalidEscape)
          | _ => .error (s.fault .endOfText)
        else
          match escapeByte? e with
          | some b => readText (s.push b) rest
          | none => .error (s.settle.fault .invalidEscape)
    else if b < 0x20 then .error (s.settle.fault .controlCharacter)
    else readText (s.push b) rest

-- ============================================ values

/-- A broken leaf, after which nothing is left to read. -/
def stop {p : Part} (f : Fault) : Doc p × Option (List UInt8) :=
  (.broken f.whenRead f.whenSkipped, none)

/-- A leaf of the document. -/
def leaf {α : Type} (make : α → Doc .value) :
    Except Fault (α × List UInt8) → Doc .value × Option (List UInt8)
  | .ok (a, rest) => (make a, some rest)
  | .error f => stop f

mutual

/-- Reads a value. What is left is nothing when the text went wrong. -/
def readValue : (fuel : Nat) → List UInt8 → Doc .value × Option (List UInt8)
  | 0, _ => stop (.same .endOfValue)
  | fuel + 1, bs =>
    match skipSpace bs with
    | [] => stop (.same .endOfValue)
    | b :: rest =>
      if b = 0x7B then
        let (members, left) := readMembers fuel true rest
        (.object members, left)
      else if b = 0x5B then
        let (items, left) := readItems fuel true rest
        (.array items, left)
      else if b = 0x22 then leaf .text (readText .start rest)
      else if b = 0x2D then
        leaf .number ((readNumber true rest).map fun (n, left) => (n.value, left))
      else if isDigit b then
        leaf .number ((readNumber false (b :: rest)).map fun (n, left) => (n.value, left))
      else if b = 0x6E then
        leaf (fun _ => .null) ((readLiteral [0x75, 0x6C, 0x6C] rest).map ((), ·))
      else if b = 0x74 then
        leaf (fun _ => .bool true) ((readLiteral [0x72, 0x75, 0x65] rest).map ((), ·))
      else if b = 0x66 then
        leaf (fun _ => .bool false) ((readLiteral [0x61, 0x6C, 0x73, 0x65] rest).map ((), ·))
      else stop (.same .expectedValue)
termination_by structural fuel => fuel

/-- Reads the items of an array and its closing bracket. -/
def readItems : (fuel : Nat) → (first : Bool) → List UInt8 → Doc .items × Option (List UInt8)
  | 0, _, _ => stop (.same .endOfArray)
  | fuel + 1, first, bs =>
    let next (bs : List UInt8) : Doc .items × Option (List UInt8) :=
      match readValue fuel bs with
      | (v, none) => (.item v .noItems, none)
      | (v, some rest) =>
        let (items, left) := readItems fuel false rest
        (.item v items, left)
    match skipSpace bs with
    | [] => stop (.same .endOfArray)
    | b :: rest =>
      if b = 0x5D then (.noItems, some rest)
      else if first then next (b :: rest)
      else if b = 0x2C then
        match skipSpace rest with
        | [] => stop (.same .endOfValue)
        | c :: rest =>
          if c = 0x5D then stop ⟨.trailingComma, .expectedValue⟩ else next (c :: rest)
      else stop (.same .expectedCommaOrBracket)
termination_by structural fuel => fuel

/-- Reads the members of an object and its closing brace. -/
def readMembers : (fuel : Nat) → (first : Bool) → List UInt8 → Doc .members × Option (List UInt8)
  | 0, _, _ => stop (.same .endOfObject)
  | fuel + 1, first, bs =>
    let next (bs : List UInt8) : Doc .members × Option (List UInt8) :=
      match readText .start bs with
      | .error f => stop f
      | .ok (key, rest) =>
        match skipSpace rest with
        | [] => (.member key (.broken .endOfObject .endOfObject) .noMembers, none)
        | b :: rest =>
          if b = 0x3A then
            match readValue fuel rest with
            | (v, none) => (.member key v .noMembers, none)
            | (v, some rest) =>
              let (members, left) := readMembers fuel false rest
              (.member key v members, left)
          else (.member key (.broken .expectedColon .expectedColon) .noMembers, none)
    match skipSpace bs with
    | [] => stop (.same .endOfObject)
    | b :: rest =>
      if b = 0x7D then (.noMembers, some rest)
      else if first then
        if b = 0x22 then next rest else stop (.same .keyNotText)
      else if b = 0x2C then
        match skipSpace rest with
        | [] => stop ⟨.endOfValue, .endOfObject⟩
        | c :: rest =>
          if c = 0x22 then next rest
          else if c = 0x7D then stop ⟨.trailingComma, .keyNotText⟩
          else stop (.same .keyNotText)
      else stop (.same .expectedCommaOrBrace)
termination_by structural fuel => fuel

end

end Doc

/-- A text as a document: its value, and whether anything but blanks follows. -/
structure Document where
  root : Doc .value
  trailing : Bool

/-- Reads a text. Every call of the reader takes at least half a byte, which bounds them. -/
def Document.read (bs : List UInt8) : Document :=
  match Doc.readValue (2 * bs.length + 1) bs with
  | (root, none) => ⟨root, false⟩
  | (root, some rest) => ⟨root, !(Doc.skipSpace rest).isEmpty⟩

end CallExplorer
