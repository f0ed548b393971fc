/-
The references of file paths.

An absolute path becomes a reference by encoding its components one by one, with a slash in front
of each (`pathText`). Such a text is cut at the slashes into the encoded components again, and each
of them is recovered from its encoded form; so paths have the same text exactly when they have the
same components (`fileText_inj`).

# Which paths have one

The text has to be read as a reference. The scheme and the empty authority are no obstacle, and
the path is passed over octet by octet, up to a character that no reference may hold, if the path
holds one. What stands there is taken for the end of the path, and none of the parts that may
follow begins with it (`not_misplaced_of_checkTail`). So the text is well formed unless the path
holds such a character (`check_fileText`).

# What this closes

`ofPath_exact`: which paths have a reference, what it says, and which paths share it.
-/
import CallExplorer.Proofs.Action
import CallExplorer.Proofs.Text.Split
import CallExplorer.Proofs.Uri.Encoding

namespace CallExplorer.Uri

open Text (joined splitAt splitAt_cons_sep splitAt_joined)

variable {path : List Char} {c : Char}

-- ============================================ components

/-- Whether a piece of a path is one of its components. -/
def isComponent (piece : List Char) : Bool := !piece.isEmpty && piece != ['.']

theorem mem_components {piece : List Char} :
    piece ∈ components path ↔ piece ∈ splitAt '/' path ∧ isComponent piece = true :=
  List.mem_filter

/-- What a path is written with: its components, or an empty piece if it has none. -/
def pieces (path : List Char) : List (List Char) :=
  if components path = [] then [[]] else components path

theorem pieces_ne_nil (path : List Char) : pieces path ≠ [] := by
  unfold pieces
  split
  next => exact List.cons_ne_nil [] []
  next h => exact h

theorem eq_nil_or_mem_components {piece : List Char} (h : piece ∈ pieces path) :
    piece = [] ∨ piece ∈ components path := by
  unfold pieces at h
  split at h
  next => exact .inl (List.mem_singleton.1 h)
  next => exact .inr h

/-- The pieces of a path hold what it holds, less the slashes. -/
theorem mem_of_mem_pieces {piece : List Char} (h : piece ∈ pieces path) (hc : c ∈ piece) :
    c ∈ path ∧ c ≠ '/' := by
  rcases eq_nil_or_mem_components h with rfl | hmem
  · cases hc
  · exact Text.mem_of_mem_splitAt (mem_components.1 hmem).1 hc

theorem not_slash_of_mem_pieces : ∀ piece ∈ pieces path, '/' ∉ piece :=
  fun _ hpiece hin => (mem_of_mem_pieces hpiece hin).2 rfl

theorem filter_pieces (path : List Char) : (pieces path).filter isComponent = components path := by
  unfold pieces
  split
  next h =>
    rw [h]
    rfl
  next => exact List.filter_eq_self.2 fun piece hpiece => (mem_components.1 hpiece).2

/-- The components of pieces put together are those among the pieces. -/
theorem components_joined {ps : List (List Char)} (h : ∀ piece ∈ ps, '/' ∉ piece) :
    components (joined '/' ps) = ps.filter isComponent := by
  unfold components
  rw [splitAt_joined h]
  rfl

/-- Pieces are those of one list of components. -/
theorem pieces_inj {p q : List Char} : pieces p = pieces q ↔ components p = components q := by
  constructor
  · intro h
    rw [← filter_pieces p, h, filter_pieces]
  · intro h
    rw [pieces, pieces, h]

-- ============================================ the text of a path

/-- The pieces of a path in encoded form, with a slash in front of each. -/
def pathText (path : List Char) : List Char := joined '/' ((pieces path).map encodeText)

theorem fileText_eq (path : List Char) : fileText path = "file://".toList ++ pathText path := by
  unfold fileText pathText pieces
  dsimp only
  split
  next h =>
    rw [List.isEmpty_iff, List.map_eq_nil_iff] at h
    rw [if_pos h]
    rfl
  next h =>
    rw [List.isEmpty_iff, List.map_eq_nil_iff] at h
    rw [if_neg h, joined, List.flatMap_map]
    rfl

theorem not_delimiter_of_mem_encoded {ps : List (List Char)} :
    ∀ s ∈ ps.map encodeText, ∀ c ∈ s, c ∉ ['/', '?', '#'] := by
  intro s hs c hc
  obtain ⟨piece, -, rfl⟩ := List.mem_map.1 hs
  exact not_delimiter_of_mem_encodeText hc

theorem not_slash_of_mem_encoded {ps : List (List Char)} : ∀ s ∈ ps.map encodeText, '/' ∉ s :=
  fun s hs hc => not_delimiter_of_mem_encoded s hs '/' hc List.mem_cons_self

/-- The text begins with a slash, and is cut into the encoded pieces at the slashes. -/
theorem pathText_eq_cons (path : List Char) :
    ∃ text, pathText path = '/' :: text ∧ splitAt '/' text = (pieces path).map encodeText := by
  have hcut : splitAt '/' (pathText path) = [] :: (pieces path).map encodeText :=
    splitAt_joined not_slash_of_mem_encoded
  obtain ⟨piece, ps, hps⟩ := List.exists_cons_of_ne_nil (pieces_ne_nil path)
  have htext : pathText path = '/' :: (encodeText piece ++ joined '/' (ps.map encodeText)) := by
    rw [pathText, hps]
    rfl
  refine ⟨_, htext, ?_⟩
  rw [htext, splitAt_cons_sep] at hcut
  injection hcut

/-- A query or a fragment is nowhere in the text. -/
theorem not_delimiter_of_mem_pathText (hc : c ∈ pathText path) : c ≠ '?' ∧ c ≠ '#' := by
  obtain ⟨s, hs, hc⟩ := List.mem_flatMap.1 hc
  rcases List.mem_cons.1 hc with rfl | hc
  · decide
  · have hnot := not_delimiter_of_mem_encoded s hs c hc
    simp only [List.mem_cons, List.not_mem_nil, or_false, not_or] at hnot
    exact hnot.2

/-- Paths are told apart by their texts, as far as their components differ. -/
theorem fileText_inj {p q : List Char} : fileText p = fileText q ↔ components p = components q := by
  rw [← pieces_inj, fileText_eq, fileText_eq, List.append_cancel_left_eq]
  constructor
  · intro h
    have hcut := congrArg (splitAt '/') h
    rw [pathText, pathText, splitAt_joined not_slash_of_mem_encoded,
      splitAt_joined not_slash_of_mem_encoded] at hcut
    injection hcut with _ hcut
    exact List.map_inj_right (fun _ _ => encodeText_inj) |>.1 hcut
  · intro h
    rw [pathText, pathText, h]

-- ============================================ what may stand in a reference

/-- A misplaced character is not passed over where it is not allowed. -/
theorem mem_of_skipEncoded {allowed : Char → Bool} (hallowed : misplaced.any allowed = false)
    {cs rest : List Char} (h : skipEncoded allowed cs = .ok rest) (hc : c ∈ misplaced)
    (hin : c ∈ cs) : c ∈ rest := by
  have hdigits : misplaced.any Text.isHexDigit = false := by decide
  have hdigit := List.any_eq_false.1 hdigits c hc
  induction cs using skipEncoded.induct allowed with
  | case1 => cases hin
  | case2 a b rest' hab ih =>
      rw [skipEncoded, if_pos hab] at h
      rw [Bool.and_eq_true] at hab
      refine ih h ?_
      simp only [List.mem_cons] at hin
      rcases hin with rfl | rfl | rfl | hin
      · exact absurd hc (by decide)
      · exact absurd hab.1 hdigit
      · exact absurd hab.2 hdigit
      · exact hin
  | case3 a b rest' hab =>
      rw [skipEncoded, if_neg hab] at h
      cases h
  | case4 rest' hshort =>
      rw [skipEncoded] at h
      · cases h
      · exact hshort
  | case5 d rest' _ hpercent hd ih =>
      rw [skipEncoded_cons _ hpercent, if_pos hd] at h
      refine ih h ((List.mem_cons.1 hin).resolve_left ?_)
      rintro rfl
      exact absurd hd (List.any_eq_false.1 hallowed c hc)
  | case6 d rest' _ hpercent hd =>
      rw [skipEncoded_cons _ hpercent, if_neg hd] at h
      injection h with h
      rwa [← h]

/-- Nor is it passed over behind a delimiter. -/
theorem mem_of_skipQuery {d : Char} (hd : d ∉ misplaced) {rest left : List Char}
    (h : skipEncoded isQueryChar rest = .ok left) (hc : c ∈ misplaced) (hin : c ∈ d :: rest) :
    c ∈ left := by
  refine mem_of_skipEncoded (by decide) h hc ((List.mem_cons.1 hin).resolve_left ?_)
  rintro rfl
  exact hd hc

/-- Checks that nothing is left. -/
def checkEnd : List Char → Except Fault Unit
  | [] => .ok ()
  | rest => .error (.at .character rest)

/-- Checks what may follow a query. -/
def checkFragment : List Char → Except Fault Unit
  | '#' :: rest => skipEncoded isQueryChar rest >>= checkEnd
  | rest => checkEnd rest

/-- Checks what may follow a path. -/
def checkQuery : List Char → Except Fault Unit
  | '?' :: rest => skipEncoded isQueryChar rest >>= checkFragment
  | rest => checkFragment rest

theorem checkTail_eq (cs : List Char) : checkTail cs = checkQuery cs := rfl

theorem not_mem_of_checkEnd {cs : List Char} (h : checkEnd cs = .ok ()) : c ∉ cs := by
  cases cs with
  | nil => exact List.not_mem_nil
  | cons d rest => cases h

theorem not_misplaced_of_checkFragment {cs : List Char} (h : checkFragment cs = .ok ())
    (hin : c ∈ cs) : c ∉ misplaced := by
  intro hc
  unfold checkFragment at h
  split at h
  next rest =>
    obtain ⟨left, hskip, h⟩ := ok_of_bind h
    exact not_mem_of_checkEnd h (mem_of_skipQuery (by decide) hskip hc hin)
  next => exact not_mem_of_checkEnd h hin

/-- What follows a path holds no misplaced character. -/
theorem not_misplaced_of_checkTail {cs : List Char} (h : checkTail cs = .ok ()) (hin : c ∈ cs) :
    c ∉ misplaced := by
  intro hc
  rw [checkTail_eq] at h
  unfold checkQuery at h
  split at h
  next rest =>
    obtain ⟨left, hskip, h⟩ := ok_of_bind h
    exact not_misplaced_of_checkFragment h (mem_of_skipQuery (by decide) hskip hc hin) hc
  next => exact not_misplaced_of_checkFragment h hin hc

/-- An authority is empty if a slash follows at once. -/
theorem skipAuthority_slash (cs : List Char) : skipAuthority ('/' :: cs) = .ok ('/' :: cs) := by
  have hskip : skipEncoded (fun c => isNameChar c || c == ':') ('/' :: cs) = .ok ('/' :: cs) :=
    skipEncoded_cons _ (by decide) cs
  unfold skipAuthority
  rw [hskip]
  simp only [bind, Except.bind]
  split
  next heq => cases heq
  next heq => cases heq
  next =>
    rw [Nat.sub_self, List.take_zero]
    rfl

/-- Behind the scheme and an empty authority only the path is left to be checked. -/
theorem check_file (cs : List Char) :
    check ("file://".toList ++ '/' :: cs) = checkPath ('/' :: cs) := by
  show checkAuthority ('/' :: cs) = _
  rw [checkAuthority, skipAuthority_slash]
  rfl

-- ============================================ success

/-- Pieces without misplaced characters are passed over. -/
theorem skipEncoded_joined {ps : List (List Char)} (h : ∀ piece ∈ ps, ∀ c ∈ piece, c ∉ misplaced) :
    skipEncoded isPathChar (joined '/' (ps.map encodeText)) = .ok [] := by
  induction ps with
  | nil => rfl
  | cons piece ps ih =>
      show skipEncoded isPathChar ('/' :: (encodeText piece ++ joined '/' (ps.map encodeText))) = _
      rw [skipEncoded_cons _ (by decide), if_pos (by decide),
        skipEncoded_encodeText (h piece List.mem_cons_self)]
      exact ih fun p hp => h p (List.mem_cons_of_mem piece hp)

/-- A misplaced character of a path is in one of its pieces. -/
theorem exists_mem_pieces (hin : c ∈ path) (hc : c ∈ misplaced) :
    ∃ piece ∈ pieces path, c ∈ piece := by
  have hslash : c ≠ '/' := by
    rintro rfl
    exact absurd hc (by decide)
  obtain ⟨piece, hpiece, hcin⟩ := Text.exists_mem_splitAt hin hslash
  have hcomponent : isComponent piece = true := by
    rw [isComponent, Bool.and_eq_true]
    refine ⟨?_, ?_⟩
    · cases piece with
      | nil => cases hcin
      | cons d ds => rfl
    · rw [bne_iff_ne]
      rintro rfl
      rw [List.mem_singleton.1 hcin] at hc
      exact absurd hc (by decide)
  have hmem := mem_components.2 ⟨hpiece, hcomponent⟩
  refine ⟨piece, ?_, hcin⟩
  rw [pieces, if_neg (List.ne_nil_of_mem hmem)]
  exact hmem

/-- The text of a path is well formed unless the path holds a misplaced character. -/
theorem check_fileText (path : List Char) :
    check (fileText path) = .ok () ↔ ∀ c ∈ path, c ∉ misplaced := by
  obtain ⟨text, htext, -⟩ := pathText_eq_cons path
  rw [fileText_eq, htext, check_file, ← htext, checkPath]
  constructor
  · intro h c hin hc
    obtain ⟨rest, hskip, htail⟩ := ok_of_bind h
    obtain ⟨piece, hpiece, hcin⟩ := exists_mem_pieces hin hc
    have hmem : c ∈ pathText path :=
      List.mem_flatMap.2 ⟨encodeText piece, List.mem_map_of_mem hpiece,
        List.mem_cons_of_mem _ (mem_encodeText_of_misplaced hcin hc)⟩
    exact not_misplaced_of_checkTail htail (mem_of_skipEncoded (by decide) hskip hc hmem) hc
  · intro h
    rw [pathText, skipEncoded_joined fun piece hpiece c hc => h c (mem_of_mem_pieces hpiece hc).1]
    rfl

/-- What the reference of a path is, if it has one. -/
theorem ofPath_eq_ok_iff {path : String} {u : Uri} :
    ofPath path = .ok u ↔
      path.toList.head? = some '/' ∧ u.text = String.ofList (fileText path.toList) := by
  unfold ofPath
  constructor
  · intro h
    split at h
    next rest hpath =>
      dsimp only at h
      split at h
      next v hparse =>
        injection h with h
        subst h
        exact ⟨by rw [hpath, List.head?_cons], text_of_parse hparse⟩
      next => cases h
    next => cases h
  · rintro ⟨hhead, htext⟩
    obtain ⟨rest, hpath⟩ := List.head?_eq_some_iff.1 hhead
    have hparse := parse_text u
    rw [htext, hpath] at hparse
    rw [hpath]
    simp only [hparse]

/-- A path has a reference if it is absolute and holds no misplaced character. -/
theorem exists_ofPath_iff (path : String) :
    (∃ u, ofPath path = .ok u) ↔
      path.toList.head? = some '/' ∧ ∀ c ∈ path.toList, c ∉ misplaced := by
  constructor
  · rintro ⟨u, hu⟩
    obtain ⟨hhead, htext⟩ := ofPath_eq_ok_iff.1 hu
    have hcheck := u.wellFormed
    rw [htext, String.toList_ofList] at hcheck
    exact ⟨hhead, (check_fileText path.toList).1 hcheck⟩
  · rintro ⟨hhead, hplaced⟩
    have hcheck := (check_fileText path.toList).2 hplaced
    refine ⟨⟨String.ofList (fileText path.toList), ?_⟩, ofPath_eq_ok_iff.2 ⟨hhead, rfl⟩⟩
    rwa [String.toList_ofList]

-- ============================================ what the reference says

/-- The scheme of a reference: what stands before the first delimiter, if that is a colon. -/
def scheme? (cs : List Char) : Option (List Char) :=
  match cs.dropWhile (· ∉ [':', '/', '?', '#']) with
  | ':' :: _ => some (cs.takeWhile (· ∉ [':', '/', '?', '#']))
  | _ => none

/-- The authority of a reference with a scheme: what stands between two slashes behind the
scheme and the next delimiter. -/
def authority? (cs : List Char) : Option (List Char) :=
  match cs.dropWhile (· ∉ [':', '/', '?', '#']) with
  | ':' :: '/' :: '/' :: rest => some (rest.takeWhile (· ∉ ['/', '?', '#']))
  | _ => none

/-- A well-formed reference to a file without a host: its scheme is `file`, and its authority is
empty, so there is no user, no port, and the host is empty too. -/
structure NamesFile (u : Uri) : Prop where
  wellFormed : check u.text.toList = .ok ()
  scheme : scheme? u.text.toList = some "file".toList
  authority : authority? u.text.toList = some []

theorem namesFile_of_ofPath {path : String} {u : Uri} (h : ofPath path = .ok u) : NamesFile u := by
  obtain ⟨text, hslash, -⟩ := pathText_eq_cons path.toList
  have htext : u.text.toList = "file://".toList ++ '/' :: text := by
    rw [(ofPath_eq_ok_iff.1 h).2, String.toList_ofList, fileText_eq, hslash]
  exact ⟨u.wellFormed, htext ▸ rfl, htext ▸ rfl⟩

/-- A path has a reference if and only if it is absolute and holds no misplaced character. That
reference names a file without a host, and it is that of every other path with the same components
and of no path with other components. -/
theorem ofPath_exact (path : String) :
    ((∃ u, ofPath path = .ok u) ↔
        path.toList.head? = some '/' ∧ ∀ c ∈ path.toList, c ∉ ['[', ']', '^', '|'])
      ∧ ∀ u, ofPath path = .ok u →
          NamesFile u
            ∧ ∀ other v, ofPath other = .ok v →
                (u = v ↔ components path.toList = components other.toList) := by
  refine ⟨exists_ofPath_iff path, fun u hu => ⟨namesFile_of_ofPath hu, fun other v hv => ?_⟩⟩
  rw [← fileText_inj, ← String.ofList_inj, ← (ofPath_eq_ok_iff.1 hu).2,
    ← (ofPath_eq_ok_iff.1 hv).2]
  exact ⟨congrArg Uri.text, Uri.ext⟩

/-- Slashes and dots too many make no difference, an encoded slash in a name does; a bracket is one
character too many. -/
theorem odd_paths_told_apart :
    ∃ u v w, ofPath "/ä b//./50%/" = .ok u ∧ ofPath "/./ä b/50%" = .ok v
      ∧ ofPath "/ä b%2F50%" = .ok w ∧ NamesFile u ∧ u = v ∧ u ≠ w
      ∧ ¬ ∃ x, ofPath "/ä[0]" = .ok x := by
  obtain ⟨u, hu⟩ := (ofPath_exact "/ä b//./50%/").1.2 (by simp)
  obtain ⟨v, hv⟩ := (ofPath_exact "/./ä b/50%").1.2 (by simp)
  obtain ⟨w, hw⟩ := (ofPath_exact "/ä b%2F50%").1.2 (by simp)
  obtain ⟨hnames, hsame⟩ := (ofPath_exact "/ä b//./50%/").2 u hu
  refine ⟨u, v, w, hu, hv, hw, hnames, (hsame _ v hv).2 (by decide +kernel), ?_, ?_⟩
  · rw [ne_eq, hsame _ w hw]
    decide +kernel
  · rw [(ofPath_exact "/ä[0]").1]
    simp

end CallExplorer.Uri
