/-
The grammar of JSON texts.

What a document may look like as bytes, said without a reader: blanks wherever the grammar
allows them, strings with any mixture of plain and escaped characters, numbers with or without
fraction and exponent. `Written d bs` relates a document, or a piece of one, to each of its
texts. A document keeps its members in the order written, so the relation fixes their order;
it leaves open how everything else is spelled.

The items of an array and the members of an object are pieces with their closing bracket. The
flag `first` tells a piece right behind the opening bracket from one that follows another item
or member, which begins with a comma.
-/
import CallExplorer.Json.Reader

namespace CallExplorer

namespace Doc

-- ============================================ strings

/-- The escapes of one letter: the byte behind the backslash, and what the two stand for. -/
def shortEscapes : List (UInt8 × Char) :=
  [(0x22, '"'), (0x5C, '\\'), (0x2F, '/'), (0x62, '\x08'), (0x66, '\x0C'), (0x6E, '\n'),
    (0x72, '\r'), (0x74, '\t')]

/-- The characters of a string and the closing quote. A character stands for itself, unless it
is a quote, a backslash or a control; it has an escape of one letter; or it has an escape with
its number, in two halves if the number needs more than 16 bits. -/
inductive Chars : List Char → List UInt8 → Prop
  | close : Chars [] [0x22]
  | plain {c : Char} {cs : List Char} {bs : List UInt8} (hquote : c ≠ '"') (hslash : c ≠ '\\')
      (hcontrol : 32 ≤ c.toNat) (rest : Chars cs bs) :
      Chars (c :: cs) (String.utf8EncodeChar c ++ bs)
  | short {e : UInt8} {c : Char} {cs : List Char} {bs : List UInt8} (h : (e, c) ∈ shortEscapes)
      (rest : Chars cs bs) : Chars (c :: cs) (0x5C :: e :: bs)
  | unit {a b c d : UInt8} {n : Nat} {cs : List Char} {bs : List UInt8}
      (h : hexUnit? a b c d = some n) (hn : n < 0xD800 ∨ 0xDFFF < n) (rest : Chars cs bs) :
      Chars (Char.ofNat n :: cs) (0x5C :: 0x75 :: a :: b :: c :: d :: bs)
  | pair {a b c d a' b' c' d' : UInt8} {high low : Nat} {cs : List Char} {bs : List UInt8}
      (h : hexUnit? a b c d = some high) (hhigh : 0xD800 ≤ high ∧ high ≤ 0xDBFF)
      (h' : hexUnit? a' b' c' d' = some low) (hlow : 0xDC00 ≤ low ∧ low ≤ 0xDFFF)
      (rest : Chars cs bs) :
      Chars (Char.ofNat (0x10000 + (high - 0xD800) * 0x400 + (low - 0xDC00)) :: cs)
        (0x5C :: 0x75 :: a :: b :: c :: d :: 0x5C :: 0x75 :: a' :: b' :: c' :: d' :: bs)

/-- A string behind its opening quote. -/
def Quoted (s : String) (bs : List UInt8) : Prop := Chars s.toList bs

-- ============================================ numbers

/-- One or more digits. -/
structure Digits (ds : List UInt8) : Prop where
  ne_nil : ds ≠ []
  digit : ∀ d ∈ ds, isDigit d = true

/-- The digits before the point: a zero alone, or digits that begin with another one. -/
inductive Whole : List UInt8 → Prop
  | zero : Whole [0x30]
  | positive {d : UInt8} {ds : List UInt8} (hd : isDigit d = true) (hne : d ≠ 0x30)
      (hds : ∀ d ∈ ds, isDigit d = true) : Whole (d :: ds)

/-- A fraction, or none. -/
inductive Fraction : Option (List UInt8) → List UInt8 → Prop
  | none : Fraction none []
  | some {ds : List UInt8} (h : Digits ds) : Fraction (some ds) (0x2E :: ds)

/-- An exponent with its sign, or none. -/
inductive Exponent : Option (Bool × List UInt8) → List UInt8 → Prop
  | none : Exponent none []
  | plain {e : UInt8} {ds : List UInt8} (he : e = 0x65 ∨ e = 0x45) (h : Digits ds) :
      Exponent (some (false, ds)) (e :: ds)
  | plus {e : UInt8} {ds : List UInt8} (he : e = 0x65 ∨ e = 0x45) (h : Digits ds) :
      Exponent (some (false, ds)) (e :: 0x2B :: ds)
  | minus {e : UInt8} {ds : List UInt8} (he : e = 0x65 ∨ e = 0x45) (h : Digits ds) :
      Exponent (some (true, ds)) (e :: 0x2D :: ds)

/-- A number behind its minus sign, if it has one. -/
inductive Unsigned (n : Numeral) : List UInt8 → Prop
  | parts {fraction exponent : List UInt8} (hw : Whole n.whole) (hf : Fraction n.fraction fraction)
      (he : Exponent n.exponent exponent) : Unsigned n (n.whole ++ fraction ++ exponent)

-- ============================================ documents

/-- The texts of a piece of a document. -/
inductive Written : (first : Bool) → {p : Part} → Doc p → List UInt8 → Prop
  | blank {first : Bool} {p : Part} {d : Doc p} {b : UInt8} {bs : List UInt8}
      (hb : isSpace b = true) (h : Written first d bs) : Written first d (b :: bs)
  | null : Written true .null [0x6E, 0x75, 0x6C, 0x6C]
  | boolTrue : Written true (.bool true) [0x74, 0x72, 0x75, 0x65]
  | boolFalse : Written true (.bool false) [0x66, 0x61, 0x6C, 0x73, 0x65]
  | negative {n : Numeral} {bs : List UInt8} (hn : n.negative = true) (h : Unsigned n bs) :
      Written true (.number n.value) (0x2D :: bs)
  | positive {n : Numeral} {bs : List UInt8} (hn : n.negative = false) (h : Unsigned n bs) :
      Written true (.number n.value) bs
  | text {s : String} {bs : List UInt8} (h : Quoted s bs) :
      Written true (.text (.ok s)) (0x22 :: bs)
  | array {items : Doc .items} {bs : List UInt8} (h : Written true items bs) :
      Written true (.array items) (0x5B :: bs)
  | object {members : Doc .members} {bs : List UInt8} (h : Written true members bs) :
      Written true (.object members) (0x7B :: bs)
  | noItems {first : Bool} : Written first .noItems [0x5D]
  | firstItem {v : Doc .value} {rest : Doc .items} {bs cs : List UInt8} (hv : Written true v bs)
      (hrest : Written false rest cs) : Written true (.item v rest) (bs ++ cs)
  | nextItem {v : Doc .value} {rest : Doc .items} {bs cs : List UInt8} (hv : Written true v bs)
      (hrest : Written false rest cs) : Written false (.item v rest) (0x2C :: (bs ++ cs))
  | noMembers {first : Bool} : Written first .noMembers [0x7D]
  | firstMember {k : String} {v : Doc .value} {rest : Doc .members} {ks sp bs cs : List UInt8}
      (hk : Quoted k ks) (hsp : ∀ b ∈ sp, isSpace b = true) (hv : Written true v bs)
      (hrest : Written false rest cs) :
      Written true (.member (.ok k) v rest) (0x22 :: (ks ++ (sp ++ 0x3A :: (bs ++ cs))))
  | nextMember {k : String} {v : Doc .value} {rest : Doc .members}
      {sp' ks sp bs cs : List UInt8} (hsp' : ∀ b ∈ sp', isSpace b = true) (hk : Quoted k ks)
      (hsp : ∀ b ∈ sp, isSpace b = true) (hv : Written true v bs)
      (hrest : Written false rest cs) :
      Written false (.member (.ok k) v rest)
        (0x2C :: (sp' ++ 0x22 :: (ks ++ (sp ++ 0x3A :: (bs ++ cs)))))

end Doc

/-- The texts of a value: those of its document, with blanks before and behind. -/
def Json.WrittenAs (v : Json) (text : List UInt8) : Prop :=
  ∃ bs sp, Doc.Written true (Doc.ofJson v) bs ∧ (∀ b ∈ sp, Doc.isSpace b = true)
    ∧ text = bs ++ sp

end CallExplorer
