/-
Doubles in JSON.

A number with a fraction or an exponent is a finite IEEE 754 double, held by its
bits so that two of them can be told apart. Reading scales the significand by a
power of ten, with one rounding for every power up to 10^308. Writing gives the
fewest digits that read back, the nearest of them to the value.
-/
import CallExplorer.Text.Decimal

namespace CallExplorer

/-- A finite double, held by its bits. -/
structure Double where
  bits : UInt64
  deriving DecidableEq

namespace Double

-- ============================================ reading

/-- The double nearest to `10 ^ k`. -/
def pow10 (k : Nat) : Float := Float.ofScientific 1 false k

/-- Scales `x` by `10 ^ e`; nothing if that is beyond every double. No exponent is
left after `steps` divisions by `10 ^ 308`, for `x` is zero by then. -/
def scale : (steps : Nat) → (x : Float) → (e : Int) → Option Float
  | 0, x, _ => some x
  | steps + 1, x, e =>
    if e.natAbs ≤ 308 then
      if 0 ≤ e then
        let y := x * pow10 e.natAbs
        if y.isInf then none else some y
      else some (x / pow10 e.natAbs)
    else if x == 0.0 then some x
    else if 0 ≤ e then none
    else scale steps (x / pow10 308) (e + 308)

/-- The double written with the sign, the significand (below 2^64) and the decimal
exponent; nothing if it is out of range. -/
def ofDecimal? (negative : Bool) (significand : Nat) (exponent : Int) : Option Double :=
  (scale 4 significand.toUInt64.toFloat exponent).map fun x =>
    ⟨(if negative then -x else x).toBits⟩

/-- Zero with a sign. -/
def zero (negative : Bool) : Double := ⟨if negative then 0x8000000000000000 else 0⟩

-- ============================================ shortest digits

/-- Whether the sign bit is set. -/
def negative (x : Double) : Bool := x.bits >>> 63 == 1

/-- The value without its sign as `m * 2 ^ q`. -/
def parts (x : Double) : Nat × Int :=
  let e := ((x.bits >>> 52) &&& 0x7FF).toNat
  let f := (x.bits &&& 0xFFFFFFFFFFFFF).toNat
  if e = 0 then (f, -1074) else (4503599627370496 + f, (e : Int) - 1075)

/-- The reals that read back as `m * 2 ^ q`, and that value itself, as multiples of
a common fraction `1 / den`. The ends belong to it when `m` is even. -/
structure Neighbourhood where
  low : Nat
  value : Nat
  high : Nat
  den : Nat
  closed : Bool

/-- The neighbourhood of `m * 2 ^ q`. Below a power of two the gap is half as wide. -/
def neighbourhood (m : Nat) (q : Int) : Neighbourhood :=
  let low := if m = 4503599627370496 && q > -1074 then 4 * m - 1 else 4 * m - 2
  let (num, den) := if 2 ≤ q then (Nat.pow 2 (q - 2).toNat, 1) else (1, Nat.pow 2 (2 - q).toNat)
  ⟨low * num, 4 * m * num, (4 * m + 2) * num, den, m % 2 == 0⟩

/-- Whether `d * 10 ^ e` lies in the neighbourhood. -/
def Neighbourhood.contains (n : Neighbourhood) (d : Nat) (e : Int) : Bool :=
  let up := Nat.pow 10 e.toNat
  let down := Nat.pow 10 (-e).toNat
  let x := d * up * n.den
  let low := n.low * down
  let high := n.high * down
  if n.closed then low ≤ x && x ≤ high else low < x && x < high

/-- The number of digits before the point, counted downwards from `k`: the least `k`
with the value below `10 ^ k`. -/
def Neighbourhood.magnitude (n : Neighbourhood) : (steps : Nat) → (k : Int) → Int
  | 0, k => k
  | steps + 1, k =>
    let up := Nat.pow 10 (k - 1).toNat
    let down := Nat.pow 10 (1 - k).toNat
    if n.value * down < up * n.den then n.magnitude steps (k - 1) else k

/-- The better of the value's two neighbours on the grid of multiples of `10 ^ e`, if
one lies in the neighbourhood. Of two the nearer wins, of two equally near the even. -/
def Neighbourhood.onGrid (n : Neighbourhood) (e : Int) : Option Nat :=
  let up := Nat.pow 10 e.toNat
  let down := Nat.pow 10 (-e).toNat
  let num := n.value * down
  let den := up * n.den
  let d := num / den
  let rest := num % den
  let above := if 2 * rest = den then d % 2 == 1 else decide (den < 2 * rest)
  match n.contains d e && d ≠ 0, n.contains (d + 1) e with
  | false, false => none
  | true, false => some d
  | false, true => some (d + 1)
  | true, true => some (if above then d + 1 else d)

/-- The first grid, from coarse to fine, on which the value has a neighbour. -/
def Neighbourhood.search (n : Neighbourhood) : (steps : Nat) → (e : Int) → Nat × Int
  | 0, e => ((n.onGrid e).getD 0, e)
  | steps + 1, e =>
    match n.onGrid e with
    | some d => (d, e)
    | none => n.search steps (e - 1)

/-- Takes trailing zeros off the digits into the exponent. -/
def trimZeros : (steps : Nat) → Nat → Int → Nat × Int
  | 0, d, e => (d, e)
  | steps + 1, d, e => if d % 10 = 0 then trimZeros steps (d / 10) (e + 1) else (d, e)

/-- The shortest decimal `d * 10 ^ e` that reads back as `m * 2 ^ q`, for `m ≠ 0`. -/
def shortest (m : Nat) (q : Int) : Nat × Int :=
  let n := neighbourhood m q
  let (d, e) := n.search 17 (n.magnitude 640 310 - 1)
  trimZeros 20 d e

-- ============================================ layout

/-- A decimal exponent, always with its sign. -/
def exponentText (n : Int) : List Char :=
  if 0 ≤ n then 'e' :: '+' :: Nat.toDigits 10 n.toNat else 'e' :: (Text.signedDecimal n).toList

/-- Lays digits out: positional from 10^-5 up to 10^16 with at least one digit after
the point, otherwise with an exponent and no needless point. -/
def layout (d : Nat) (e : Int) : List Char :=
  let digits := Nat.toDigits 10 d
  let point := (digits.length : Int) + e
  if 0 ≤ e ∧ point ≤ 16 then
    digits ++ List.replicate e.toNat '0' ++ ['.', '0']
  else if 0 < point ∧ point ≤ 16 then
    digits.take point.toNat ++ '.' :: digits.drop point.toNat
  else if -5 < point ∧ point ≤ 0 then
    '0' :: '.' :: List.replicate (-point).toNat '0' ++ digits
  else
    let fraction := if digits.length = 1 then [] else '.' :: digits.drop 1
    digits.take 1 ++ fraction ++ exponentText (point - 1)

/-- The text of a double. -/
def text (x : Double) : String :=
  let sign := if x.negative then "-" else ""
  let (m, q) := x.parts
  if m = 0 then sign ++ "0.0"
  else
    let (d, e) := shortest m q
    sign ++ String.ofList (layout d e)

end Double

end CallExplorer
