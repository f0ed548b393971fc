/-
Reading from a server.

What a server sends is a stream of bytes, and now and then a read fails once in
between. A failure loses what was read for the current line or body, and reading
goes on behind it. At the end of the stream every further read is at its end.
-/
import CallExplorer.Server.Failure

namespace CallExplorer

namespace Server

/-- What the next read meets. -/
inductive Arrival where
  | byte (b : UInt8)
  | failure (reason : String)
  deriving DecidableEq, Repr

/-- The arrivals of plain bytes. -/
def arrivals (bs : List UInt8) : List Arrival := bs.map .byte

/-- Reads on up to and including the next line feed, `sofar` being what was read of the
line, the last byte first. The end of the stream ends the line, too. -/
def readLineFrom (sofar : List UInt8) :
    List Arrival → Except StreamError (List UInt8) × List Arrival
  | [] => (.ok sofar.reverse, [])
  | .failure reason :: rest => (.error (.broken reason), rest)
  | .byte b :: rest =>
    if b = 0x0A then (.ok (b :: sofar).reverse, rest) else readLineFrom (b :: sofar) rest

/-- Reads a line with its line feed. -/
def readLine (stream : List Arrival) : Except StreamError (List UInt8) × List Arrival :=
  readLineFrom [] stream

/-- Reads so many bytes more, `sofar` being what was read, the last byte first. -/
def readExactlyFrom (sofar : List UInt8) :
    Nat → List Arrival → Except StreamError (List UInt8) × List Arrival
  | 0, stream => (.ok sofar.reverse, stream)
  | _ + 1, [] => (.error .truncated, [])
  | _ + 1, .failure reason :: rest => (.error (.broken reason), rest)
  | n + 1, .byte b :: rest => readExactlyFrom (b :: sofar) n rest

/-- Reads so many bytes. -/
def readExactly (n : Nat) (stream : List Arrival) :
    Except StreamError (List UInt8) × List Arrival :=
  readExactlyFrom [] n stream

-- ============================================ progress

theorem length_readLineFrom_le (sofar : List UInt8) (stream : List Arrival) :
    (readLineFrom sofar stream).2.length ≤ stream.length := by
  induction stream generalizing sofar with
  | nil => simp [readLineFrom]
  | cons a rest ih =>
    cases a with
    | failure reason => simp [readLineFrom]
    | byte b =>
      simp only [readLineFrom]
      split
      · simp
      · exact Nat.le_succ_of_le (ih _)

/-- Reading a line takes something, unless the stream is at its end. -/
theorem length_readLine_lt {stream : List Arrival} (h : stream ≠ []) :
    (readLine stream).2.length < stream.length := by
  cases stream with
  | nil => exact absurd rfl h
  | cons a rest =>
    cases a with
    | failure reason => simp [readLine, readLineFrom]
    | byte b =>
      simp only [readLine, readLineFrom]
      split
      · simp
      · exact Nat.lt_succ_of_le (length_readLineFrom_le _ _)

/-- What follows a line is shorter than what the line begins. -/
theorem length_rest_lt {stream rest : List Arrival} {line : Except StreamError (List UInt8)}
    (h : stream ≠ []) (hr : readLine stream = (line, rest)) : rest.length < stream.length := by
  have := length_readLine_lt h
  rwa [hr] at this

/-- At the end of the stream there is an empty line. -/
@[simp] theorem readLine_nil : readLine [] = (.ok [], []) := rfl

end Server

end CallExplorer
