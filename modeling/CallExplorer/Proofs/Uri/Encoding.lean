/-
Texts in encoded form.

A component of a path is written octet by octet, each octet as one character or as a percent sign
with two digits. Nothing is lost by that: a percent sign of the component is encoded itself, so
decoding finds every octet again (`decodeOctets_encodeText`), and texts are told apart by their
encoded forms (`encodeText_inj`). Nor does an encoded text hold a delimiter of a reference: no
slash, no question mark, no number sign.

Whether a reference may hold it is another question. An octet written as a character is one of
those that a path is made of, with four exceptions: brackets, the caret and the bar
(`misplaced`) are left as they are and have no place in any reference.

# Dots

Dots are not encoded, and an encoded text has the look of a dot segment only if the text is one
(`eq_of_dotCount?_encodeText`): a text in which the dots themselves are spelled as encoded octets
is encoded once more, percent signs first.
-/
import CallExplorer.Proofs.Text.Utf8
import CallExplorer.Uri.Path

namespace CallExplorer.Uri

-- ============================================ octets

/-- Characters that are not encoded in a path though no reference may hold them. -/
def misplaced : List Char := ['[', ']', '^', '|']

/-- What is true of the 256 octets is true of all. -/
theorem forall_octet {P : UInt8 → Prop} (h : ∀ n < 256, P (UInt8.ofNat n)) (b : UInt8) : P b := by
  have := h b.toNat b.toNat_lt
  rwa [UInt8.ofNat_toNat] at this

theorem hexDigit?_upperHexDigit {n : Nat} (h : n < 16) :
    Text.hexDigit? (upperHexDigit n) = some n := by
  revert n
  decide

theorem upperHexDigit_not_delimiter {n : Nat} (h : n < 16) :
    upperHexDigit n ∉ ['/', '?', '#'] := by
  revert n
  decide

/-- The two digits of an octet stand for it. -/
theorem octet_upperHexDigit (b : UInt8) :
    octet (upperHexDigit (b.toNat / 16)) (upperHexDigit (b.toNat % 16)) = b := by
  have hlt : b.toNat < 256 := b.toNat_lt
  rw [octet, hexDigit?_upperHexDigit (by omega), hexDigit?_upperHexDigit (by omega)]
  show UInt8.ofNat (b.toNat / 16 * 16 + b.toNat % 16) = b
  rw [Nat.div_add_mod', UInt8.ofNat_toNat]

/-- An octet that is not encoded is a character of its own, neither the percent sign nor a
delimiter, and belongs in a path unless it is misplaced. -/
theorem plain_octet : ∀ b : UInt8, needsEncoding b = false →
    (Char.ofNat b.toNat).toNat = b.toNat ∧ Char.ofNat b.toNat ≠ '%'
      ∧ Char.ofNat b.toNat ∉ ['/', '?', '#']
      ∧ (isPathChar (Char.ofNat b.toNat) = true ∨ Char.ofNat b.toNat ∈ misplaced) := by
  refine forall_octet ?_
  decide +kernel

/-- A misplaced character is an octet of its own and not encoded. -/
theorem encodeOctet_misplaced {c : Char} (h : c ∈ misplaced) :
    c.toNat < 128 ∧ encodeOctet (UInt8.ofNat c.toNat) = [c] := by
  simp only [misplaced, List.mem_cons, List.not_mem_nil, or_false] at h
  rcases h with rfl | rfl | rfl | rfl
  all_goals decide

theorem decodeOctets_cons {c : Char} (h : c ≠ '%') (rest : List Char) :
    decodeOctets (c :: rest) = UInt8.ofNat c.toNat :: decodeOctets rest := by
  rw [decodeOctets]
  rintro a b rest rfl
  exact absurd rfl h

theorem skipEncoded_cons (allowed : Char → Bool) {c : Char} (h : c ≠ '%') (rest : List Char) :
    skipEncoded allowed (c :: rest) =
      if allowed c then skipEncoded allowed rest else .ok (c :: rest) := by
  rw [skipEncoded]
  · rintro a b rest rfl
    exact absurd rfl h
  · exact h

/-- What is encoded is found again, whatever follows. -/
theorem decodeOctets_encodeOctet (b : UInt8) (rest : List Char) :
    decodeOctets (encodeOctet b ++ rest) = b :: decodeOctets rest := by
  unfold encodeOctet
  split
  next =>
    show octet _ _ :: decodeOctets rest = _
    rw [octet_upperHexDigit]
  next h =>
    obtain ⟨hback, hne, -⟩ := plain_octet b (Bool.eq_false_iff.2 h)
    show decodeOctets (Char.ofNat b.toNat :: rest) = _
    rw [decodeOctets_cons hne, hback, UInt8.ofNat_toNat]

/-- No octet is written with a delimiter. -/
theorem not_delimiter_of_mem_encodeOctet {b : UInt8} {c : Char} (h : c ∈ encodeOctet b) :
    c ∉ ['/', '?', '#'] := by
  have hlt : b.toNat < 256 := b.toNat_lt
  unfold encodeOctet at h
  split at h
  next =>
    simp only [List.mem_cons, List.not_mem_nil, or_false] at h
    rcases h with rfl | rfl | rfl
    · decide
    · exact upperHexDigit_not_delimiter (by omega)
    · exact upperHexDigit_not_delimiter (by omega)
  next hb =>
    obtain ⟨-, -, hdelimiter, -⟩ := plain_octet b (Bool.eq_false_iff.2 hb)
    rw [List.mem_singleton] at h
    rwa [h]

/-- An octet is passed over, unless it is misplaced. -/
theorem skipEncoded_encodeOctet {b : UInt8} (h : Char.ofNat b.toNat ∉ misplaced)
    (rest : List Char) :
    skipEncoded isPathChar (encodeOctet b ++ rest) = skipEncoded isPathChar rest := by
  have hlt : b.toNat < 256 := b.toNat_lt
  unfold encodeOctet
  split
  next =>
    show skipEncoded isPathChar ('%' :: _ :: _ :: rest) = _
    rw [skipEncoded, Text.isHexDigit, Text.isHexDigit, hexDigit?_upperHexDigit (by omega),
      hexDigit?_upperHexDigit (by omega)]
    rfl
  next hb =>
    obtain ⟨-, hne, -, hpath⟩ := plain_octet b (Bool.eq_false_iff.2 hb)
    show skipEncoded isPathChar (Char.ofNat b.toNat :: rest) = _
    rw [skipEncoded_cons _ hne, if_pos (hpath.resolve_right h)]

-- ============================================ texts

/-- A text in encoded form. -/
def encodeText (cs : List Char) : List Char :=
  (Text.bytes (String.ofList cs)).flatMap encodeOctet

@[simp] theorem encodeText_nil : encodeText [] = [] := rfl

theorem decodeOctets_flatMap (bs : List UInt8) :
    decodeOctets (bs.flatMap encodeOctet) = bs := by
  induction bs with
  | nil => rfl
  | cons b bs ih => rw [List.flatMap_cons, decodeOctets_encodeOctet, ih]

/-- Decoding undoes encoding. -/
@[simp] theorem decodeOctets_encodeText (cs : List Char) :
    decodeOctets (encodeText cs) = Text.bytes (String.ofList cs) :=
  decodeOctets_flatMap _

/-- Texts are told apart by their encoded forms. -/
theorem encodeText_inj {cs ds : List Char} (h : encodeText cs = encodeText ds) : cs = ds := by
  have hbytes := congrArg decodeOctets h
  rw [decodeOctets_encodeText, decodeOctets_encodeText] at hbytes
  exact String.ofList_inj.1 (Text.bytes_inj.1 hbytes)

theorem not_delimiter_of_mem_encodeText {cs : List Char} {c : Char} (h : c ∈ encodeText cs) :
    c ∉ ['/', '?', '#'] := by
  obtain ⟨b, -, hc⟩ := List.mem_flatMap.1 h
  exact not_delimiter_of_mem_encodeOctet hc

/-- A misplaced character stays in the encoded form. -/
theorem mem_encodeText_of_misplaced {cs : List Char} {c : Char} (hc : c ∈ cs)
    (h : c ∈ misplaced) : c ∈ encodeText cs := by
  obtain ⟨hascii, hplain⟩ := encodeOctet_misplaced h
  refine List.mem_flatMap.2 ⟨UInt8.ofNat c.toNat, ?_, hplain ▸ List.mem_singleton_self c⟩
  rw [Text.bytes_ofList, List.mem_flatMap]
  exact ⟨c, hc, Text.utf8EncodeChar_ascii hascii ▸ List.mem_singleton_self _⟩

/-- A text without misplaced characters is passed over. -/
theorem skipEncoded_encodeText {cs : List Char} (h : ∀ c ∈ cs, c ∉ misplaced)
    (rest : List Char) :
    skipEncoded isPathChar (encodeText cs ++ rest) = skipEncoded isPathChar rest := by
  have hoctets : ∀ b ∈ Text.bytes (String.ofList cs), Char.ofNat b.toNat ∉ misplaced := by
    intro b hb hin
    obtain ⟨hascii, hback⟩ : b.toNat < 128 ∧ (Char.ofNat b.toNat).toNat = b.toNat :=
      forall_octet (P := fun b => Char.ofNat b.toNat ∈ misplaced →
        b.toNat < 128 ∧ (Char.ofNat b.toNat).toNat = b.toNat) (by decide +kernel) b hin
    obtain ⟨c, hc, hcb⟩ := Text.mem_of_mem_bytes hb hascii
    rw [String.toList_ofList] at hc
    have hsame : Char.ofNat b.toNat = c := by
      rw [← hcb, Char.ofNat_toNat]
    exact h c hc (hsame ▸ hin)
  unfold encodeText
  generalize Text.bytes (String.ofList cs) = bs at hoctets
  induction bs with
  | nil => rfl
  | cons b bs ih =>
      rw [List.flatMap_cons, List.append_assoc,
        skipEncoded_encodeOctet (hoctets b List.mem_cons_self)]
      exact ih fun b hb => hoctets b (List.mem_cons_of_mem _ hb)

-- ============================================ dots

/-- An encoded octet is no encoded dot, for a dot is not encoded. -/
theorem dotCount?_encoded {b : UInt8} (h : needsEncoding b = true) (rest : List Char) :
    dotCount? (encodeOctet b ++ rest) = none := by
  have hdigits : ∀ e, e = 'e' ∨ e = 'E' → upperHexDigit (b.toNat / 16) = '2' →
      upperHexDigit (b.toNat % 16) ≠ e := by
    intro e he hhigh hlow
    have hdot : b = 0x2E := by
      rw [← octet_upperHexDigit b, hhigh, hlow]
      rcases he with rfl | rfl
      · rfl
      · rfl
    rw [hdot] at h
    exact absurd h (by decide)
  rw [encodeOctet, if_pos h]
  show dotCount?
    ('%' :: upperHexDigit (b.toNat / 16) :: upperHexDigit (b.toNat % 16) :: rest) = none
  unfold dotCount?
  split
  next heq => cases heq
  next heq =>
    injection heq with hpercent
    exact absurd hpercent (by decide)
  next e left heq =>
    injection heq with _ heq
    injection heq with hhigh heq
    injection heq with hlow _
    exact if_neg fun he => hdigits e he hhigh hlow
  next => rfl

/-- An octet that is not encoded counts if it is a dot, and ends the count if it is not. -/
theorem dotCount?_plain {b : UInt8} (h : needsEncoding b = false) (rest : List Char) :
    dotCount? (encodeOctet b ++ rest)
      = if b = 0x2E then (dotCount? rest).map (· + 1) else none := by
  obtain ⟨hback, hne, -⟩ := plain_octet b h
  rw [encodeOctet, if_neg (Bool.eq_false_iff.1 h)]
  split
  next hdot =>
    subst hdot
    rfl
  next hother =>
    have hdot : Char.ofNat b.toNat ≠ '.' := by
      intro heq
      rw [heq] at hback
      exact hother (UInt8.toNat_inj.1 hback.symm)
    show dotCount? (Char.ofNat b.toNat :: rest) = none
    unfold dotCount?
    split
    next heq => cases heq
    next heq =>
      injection heq with heq
      contradiction
    next heq =>
      injection heq with heq
      contradiction
    next => rfl

/-- Octets in encoded form make up a dot segment only if they are dots. -/
theorem eq_replicate_of_dotCount? {bs : List UInt8} {n : Nat}
    (h : dotCount? (bs.flatMap encodeOctet) = some n) : bs = List.replicate n 0x2E := by
  induction bs generalizing n with
  | nil =>
      injection h with h
      rw [← h]
      rfl
  | cons b bs ih =>
      rw [List.flatMap_cons] at h
      cases hb : needsEncoding b with
      | true =>
          rw [dotCount?_encoded hb] at h
          cases h
      | false =>
          rw [dotCount?_plain hb] at h
          split at h
          next hdot =>
            obtain ⟨m, hm, rfl⟩ := Option.map_eq_some_iff.1 h
            rw [List.replicate_succ, ← ih hm, hdot]
          next => cases h

/-- A text in encoded form is a dot segment only if the text is one already. -/
theorem eq_of_dotCount?_encodeText {cs : List Char} {n : Nat}
    (h : dotCount? (encodeText cs) = some n) : cs = List.replicate n '.' := by
  have hbytes := eq_replicate_of_dotCount? h
  refine String.ofList_inj.1 (Text.bytes_inj.1 (hbytes.trans ?_))
  rw [Text.bytes_ofList]
  clear h hbytes
  induction n with
  | zero => rfl
  | succ n ih =>
      rw [List.replicate_succ, List.replicate_succ, List.flatMap_cons, ← ih]
      rfl

end CallExplorer.Uri
