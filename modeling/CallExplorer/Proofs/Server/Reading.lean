/-
One message after the other.

Whatever comes of a read, it takes a beginning of the stream and leaves the rest. So what a server
says falls into messages, the first, the second and so on, and it makes no difference who reads
them. `message stream k` is what comes of reading the message with the number `k`, counted from 0,
and `behind stream k` is what is left of the stream when `k` messages were read.

A client that waits for an answer reads on from where it stands. `awaitReply_cases` says all that
can come of it: it stops at the first message that cannot be read or that is the answer, or it
has passed over as many messages as it may.
-/
import Mathlib.Data.List.Infix
import CallExplorer.Server.Client

namespace CallExplorer

namespace Server

-- ============================================ reads leave a rest

theorem readLineFrom_suffix (sofar : List UInt8) (stream : List Arrival) :
    (readLineFrom sofar stream).2 <:+ stream := by
  induction stream generalizing sofar with
  | nil => exact List.suffix_refl []
  | cons a rest ih =>
      cases a with
      | failure reason => exact List.suffix_cons _ rest
      | byte b =>
          unfold readLineFrom
          split
          · exact List.suffix_cons _ rest
          · exact (ih (b :: sofar)).trans (List.suffix_cons _ rest)

theorem readExactlyFrom_suffix (sofar : List UInt8) (n : Nat) (stream : List Arrival) :
    (readExactlyFrom sofar n stream).2 <:+ stream := by
  induction n generalizing sofar stream with
  | zero => exact List.suffix_refl stream
  | succ n ih =>
      cases stream with
      | nil => exact List.suffix_refl []
      | cons a rest =>
          cases a with
          | failure reason => exact List.suffix_cons _ rest
          | byte b => exact (ih (b :: sofar) rest).trans (List.suffix_cons _ rest)

/-- A header takes the first line at least. -/
theorem readHeader_suffix (found : Option Nat) (stream : List Arrival) :
    (readHeader found stream).2 <:+ (readLine stream).2 := by
  -- along the lines of the header: a line that does not end it is followed by a shorter one
  fun_induction readHeader found stream with
  | case1 found => exact List.suffix_refl []
  | case2 found stream hnonempty e rest hline =>
      rw [hline]
  | case3 found stream hnonempty line rest hline _ hnotText =>
      rw [hline]
  | case4 found stream hnonempty line rest hline _ text htext hblank =>
      rw [hline]
  | case5 found stream hnonempty line rest hline _ text htext hother ih =>
      rw [hline]
      exact ih.trans (readLineFrom_suffix [] rest)
  | case6 found stream hnonempty line rest hline _ text htext raw hlength why hbad =>
      rw [hline]
  | case7 found stream hnonempty line rest hline _ text htext raw hlength n hgood ih =>
      rw [hline]
      exact ih.trans (readLineFrom_suffix [] rest)

theorem readFrame_suffix (stream : List Arrival) :
    (readFrame stream).2 <:+ (readLine stream).2 := by
  have hheader := readHeader_suffix none stream
  unfold readFrame
  generalize readHeader none stream = read at hheader ⊢
  obtain ⟨found, rest⟩ := read
  rcases found with e | _ | n
  · exact hheader
  · exact hheader
  · show (if maxMessageBytes < n then _ else readExactly n rest).2 <:+ _
    split
    · exact hheader
    · exact (readExactlyFrom_suffix [] n rest).trans hheader

namespace Client

theorem readReply_suffix_line (stream : List Arrival) :
    (readReply stream).2 <:+ (readLine stream).2 := by
  have hframe := readFrame_suffix stream
  unfold readReply
  generalize readFrame stream = read at hframe ⊢
  obtain ⟨body, rest⟩ := read
  cases body with
  | error e => exact hframe
  | ok body => exact hframe

theorem readReply_suffix (stream : List Arrival) : (readReply stream).2 <:+ stream :=
  (readReply_suffix_line stream).trans (readLineFrom_suffix [] stream)

/-- A message that can be read takes something. -/
theorem readReply_shorter {stream : List Arrival} {r : Reply} (h : (readReply stream).1 = .ok r) :
    (readReply stream).2.length < stream.length := by
  have hstream : stream ≠ [] := by
    rintro rfl
    rw [readReply, readFrame, readHeader, dif_pos rfl] at h
    cases h
  have hline := length_readLine_lt hstream
  have hrest := (readReply_suffix_line stream).length_le
  omega

-- ============================================ the messages of a stream

/-- What is left of the stream when so many messages were read. -/
def behind (stream : List Arrival) : Nat → List Arrival
  | 0 => stream
  | k + 1 => (readReply (behind stream k)).2

/-- What comes of reading the message with the number. -/
def message (stream : List Arrival) (k : Nat) : Except Failure Reply :=
  (readReply (behind stream k)).1

theorem readReply_behind (stream : List Arrival) (k : Nat) :
    readReply (behind stream k) = (message stream k, behind stream (k + 1)) := rfl

/-- A message cannot be read because of its bytes or because of its text. -/
theorem message_error {stream : List Arrival} {k : Nat} {e : Failure}
    (h : message stream k = .error e) :
    (∃ why, e = .stream why) ∨ ∃ why, e = .undecodable why := by
  unfold message readReply at h
  split at h
  next why rest hframe =>
    injection h with h
    exact .inl ⟨why, h.symm⟩
  next body rest hframe =>
    cases hbody : Reply.ofBody body with
    | error why =>
        rw [hbody] at h
        injection h with h
        exact .inr ⟨why, h.symm⟩
    | ok r =>
        rw [hbody] at h
        cases h

theorem behind_suffix (stream : List Arrival) {j k : Nat} (h : j ≤ k) :
    behind stream k <:+ behind stream j := by
  induction h with
  | refl => exact List.suffix_refl _
  | step _ ih => exact (readReply_suffix _).trans ih

/-- What stands behind a message has a greater number. -/
theorem lt_of_behind {stream : List Arrival} {j k : Nat} {r : Reply}
    (hmessage : message stream j = .ok r) (h : behind stream k <:+ behind stream (j + 1)) :
    j < k := by
  refine Nat.lt_of_not_le fun hle => ?_
  have hback := (behind_suffix stream hle).length_le
  have hrest := h.length_le
  have hshorter : (behind stream (j + 1)).length < (behind stream j).length :=
    readReply_shorter hmessage
  omega

-- ============================================ waiting for an answer

/-- What answers a request has no method, and its id is the integer of the request. -/
theorem answers_iff {r : Reply} {id : Int} :
    r.answers id = true ↔ r.method = none ∧ r.id = some (.int id) := by
  unfold Reply.answers
  rw [Bool.and_eq_true, Option.isNone_iff_eq_none]
  refine and_congr_right fun _ => ?_
  split
  next n hid =>
    rw [hid]
    simp
  next hid =>
    constructor
    · intro h
      cases h
    · intro h
      exact absurd h (hid id)

/-- A message that is passed over while a client waits: it can be read, and is not the answer. -/
def PassedOver (id : Int) (stream : List Arrival) (k : Nat) : Prop :=
  ∃ r, message stream k = .ok r ∧ r.answers id = false

/-- A message at which a client stops waiting: it cannot be read, or it is the answer. -/
def Stops (id : Int) (stream : List Arrival) (k : Nat) : Prop :=
  ∀ r, message stream k = .ok r → r.answers id = true

/-- All that can come of waiting for an answer, when `k` messages were read before. -/
theorem awaitReply_cases (id : Int) (stream : List Arrival) (n k : Nat) :
    (∃ j, k ≤ j ∧ j < k + n ∧ (∀ i, k ≤ i → i < j → PassedOver id stream i)
        ∧ Stops id stream j
        ∧ awaitReply id n (behind stream k) = (message stream j, behind stream (j + 1)))
      ∨ ((∀ i, k ≤ i → i < k + n → PassedOver id stream i)
        ∧ awaitReply id n (behind stream k)
          = (.error (.noResponse id), behind stream (k + n))) := by
  induction n generalizing k with
  | zero =>
      right
      exact ⟨fun i hlow hhigh => absurd hhigh (Nat.not_lt.2 hlow), rfl⟩
  | succ n ih =>
      have hhere : ∀ i, k ≤ i → i < k → PassedOver id stream i := by
        intro i hlow hhigh
        omega
      rw [awaitReply, readReply_behind]
      cases hmessage : message stream k with
      | error e =>
          left
          refine ⟨k, Nat.le_refl k, by omega, hhere, fun r hr => ?_, by rw [hmessage]⟩
          rw [hmessage] at hr
          cases hr
      | ok r =>
          cases hanswers : r.answers id with
          | true =>
              left
              refine ⟨k, Nat.le_refl k, by omega, hhere, fun r' hr' => ?_, ?_⟩
              · rw [hmessage] at hr'
                injection hr' with hr'
                rw [← hr', hanswers]
              · simp only [hanswers, if_true, hmessage]
          | false =>
              -- the message does not matter, and what follows it is as good as the beginning
              have hall : ∀ {m}, (∀ i, k + 1 ≤ i → i < m → PassedOver id stream i) →
                  ∀ i, k ≤ i → i < m → PassedOver id stream i := by
                intro m hlater i hlow hhigh
                rcases Nat.eq_or_lt_of_le hlow with rfl | hlow
                · exact ⟨r, hmessage, hanswers⟩
                · exact hlater i hlow hhigh
              simp only [hanswers, Bool.false_eq_true, if_false]
              rcases ih (k + 1) with ⟨j, hlow, hhigh, hbefore, hstops, heq⟩ | ⟨hbefore, heq⟩
              · left
                exact ⟨j, by omega, by omega, hall hbefore, hstops, heq⟩
              · right
                have hsum : k + 1 + n = k + (n + 1) := by omega
                rw [hsum] at hbefore heq
                exact ⟨hall hbefore, heq⟩

theorem awaitReply_suffix (id : Int) (n : Nat) (stream : List Arrival) :
    (awaitReply id n stream).2 <:+ stream := by
  rcases awaitReply_cases id stream n 0 with ⟨j, -, -, -, -, heq⟩ | ⟨-, heq⟩
  · show (awaitReply id n (behind stream 0)).2 <:+ behind stream 0
    rw [heq]
    exact behind_suffix stream (Nat.zero_le _)
  · show (awaitReply id n (behind stream 0)).2 <:+ behind stream 0
    rw [heq]
    exact behind_suffix stream (Nat.zero_le _)

end Client

end Server

end CallExplorer
