/-
Labels of host names in ASCII disguise.

A label of any characters can be written with letters, digits and hyphens: first its
ASCII characters, then, behind the last hyphen, where the others go and which ones
they are. Each of them is given by a number that says how far it lies from the one
before, counted over the code points and, for each code point, over the places in
the label. The digits of such numbers come the least first, to a base that adapts
itself, so that small numbers stay short.
-/
import CallExplorer.Text.Split

namespace CallExplorer.Uri.HostName

/-- The value of a letter or a digit as a digit to the base 36. -/
def labelDigit? (c : Char) : Option Nat :=
  if 'a' ≤ c && c ≤ 'z' then some (c.toNat - 97)
  else if c.isDigit then some (c.toNat - 22)
  else none

/-- The least value that a digit of the given weight goes on with. -/
def goingOn (weight bias : Nat) : Nat := if weight ≤ bias then 1 else min 26 (weight - bias)

/-- Reads a number whose digits end with the first that does not go on. -/
def readOffset (bias : Nat) :
    (weight scale sum : Nat) → List Char → Option (Nat × List Char)
  | _, _, _, [] => none
  | weight, scale, sum, c :: rest =>
    match labelDigit? c with
    | none => none
    | some d =>
      let sum := sum + d * scale
      let t := goingOn weight bias
      if d < t then some (sum, rest)
      else readOffset bias (weight + 36) (scale * (36 - t)) sum rest

/-- A number takes at least one digit. -/
theorem length_readOffset_lt {bias weight scale sum n : Nat} {cs rest : List Char}
    (h : readOffset bias weight scale sum cs = some (n, rest)) : rest.length < cs.length := by
  induction cs generalizing weight scale sum with
  | nil => simp [readOffset] at h
  | cons c cs ih =>
    simp only [readOffset] at h
    split at h
    · cases h
    · split at h
      · cases h; simp
      · exact Nat.lt_succ_of_lt (ih h)

/-- Divides what is left of a distance until it is small. -/
def settleBias : (steps : Nat) → (distance bias : Nat) → Nat
  | 0, _, bias => bias
  | steps + 1, distance, bias =>
    if 455 < distance then settleBias steps (distance / 35) (bias + 36)
    else bias + 36 * distance / (distance + 38)

/-- The bias after a number, with the length that the label has got. -/
def nextBias (number length : Nat) (first : Bool) : Nat :=
  let distance := if first then number / 700 else number / 2
  settleBias 64 (distance + distance / length) 0

/-- Puts the characters that the rest tells of into a label. -/
def insertAll (point place bias : Nat) (first : Bool) (label : List Char) (cs : List Char) :
    Option (List Char) :=
  match cs with
  | [] => some label
  | c :: cs =>
    match h : readOffset bias 36 1 0 (c :: cs) with
    | none => none
    | some (number, rest) =>
      have : rest.length < (c :: cs).length := length_readOffset_lt h
      let length := label.length + 1
      let point := point + (place + number) / length
      let place := (place + number) % length
      if point.isValidChar then
        insertAll point (place + 1) (nextBias number length first) false
          (label.take place ++ Char.ofNat point :: label.drop place) rest
      else none
termination_by cs.length
decreasing_by exact this

/-- The label in plain characters, less its mark of disguise. -/
def undisguise (cs : List Char) : Option (List Char) :=
  match cs.reverse.dropWhile (· != '-') with
  | [] => insertAll 128 0 72 true [] cs
  | _ :: front => insertAll 128 0 72 true front.reverse (cs.drop (front.length + 1))

end CallExplorer.Uri.HostName
