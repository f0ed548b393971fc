/-
The path that the reference of a path names.

A reference becomes a path by another course than a path becomes a reference: the part up to a
query or a fragment is cut at the slashes, dot segments are resolved, and only then is anything
decoded. For the reference of a path nothing of this goes astray. The authority is empty, so the
file is here and no drive letter is taken for a host (`fileTarget?_file`); the text of the path
holds no question mark and no number sign; and a segment looks like a dot segment only if the
component is one (`eq_of_dotCount?_encodeText`), whatever octets it spells out.

Two dots are the exception: they are a component, and the reference goes up there. Without them
there is nothing to resolve, and decoding gives the components back, in their order. A path that
ends in a drive letter gets a slash at its end (`pathBytes_eq`), which adds no component.
-/
import CallExplorer.Proofs.Uri.FilePaths
import Mathlib.Data.List.TakeWhile

namespace CallExplorer.Uri

open Text (joined)

variable {path : List Char} {segments : List (List Char)}

-- ============================================ segments

/-- The reference of a path names a file of this machine. -/
theorem fileTarget?_file (cs : List Char) :
    fileTarget? ("file://".toList ++ '/' :: cs) = some (.here, cs) := by
  have hfile : Text.eqIgnoreCase (String.ofList ['f', 'i', 'l', 'e']) "file" = true := by
    decide +kernel
  have hscheme :
      afterFileScheme? ("file://".toList ++ '/' :: cs) = some ('/' :: '/' :: '/' :: cs) :=
    if_pos hfile
  rw [fileTarget?, hscheme]
  rfl

/-- Where no segment is a dot segment nothing is resolved. -/
theorem resolveSegments_of_no_dots
    (h : ∀ s ∈ segments, dotCount? s ≠ some 1 ∧ dotCount? s ≠ some 2)
    (opened : List (List Char)) :
    resolveSegments opened segments = opened.reverse ++ segments := by
  induction segments generalizing opened with
  | nil =>
      rw [List.append_nil]
      rfl
  | cons s rest ih =>
      obtain ⟨hone, htwo⟩ := h s List.mem_cons_self
      have hopen := ih (fun t ht => h t (List.mem_cons_of_mem s ht)) (s :: opened)
      rw [List.reverse_cons, List.append_assoc, List.singleton_append] at hopen
      cases rest with
      | nil =>
          unfold resolveSegments
          split
          · contradiction
          · contradiction
          · rfl
      | cons t rest =>
          unfold resolveSegments
          split
          · contradiction
          · contradiction
          · exact hopen

/-- A piece of a path is no single dot, so without two dots no encoded piece is a dot segment. -/
theorem no_dots_of_mem_encoded (hup : ['.', '.'] ∉ components path) :
    ∀ s ∈ (pieces path).map encodeText, dotCount? s ≠ some 1 ∧ dotCount? s ≠ some 2 := by
  intro s hs
  obtain ⟨piece, hpiece, rfl⟩ := List.mem_map.1 hs
  have hcomponent := eq_nil_or_mem_components hpiece
  refine ⟨fun hone => ?_, fun htwo => ?_⟩
  · rw [eq_of_dotCount?_encodeText hone] at hcomponent
    rcases hcomponent with hnil | hmem
    · cases hnil
    · exact absurd (mem_components.1 hmem).2 (by decide)
  · rw [eq_of_dotCount?_encodeText htwo] at hcomponent
    rcases hcomponent with hnil | hmem
    · cases hnil
    · exact hup hmem

/-- The segments of the reference of a path are its pieces, encoded, if none of them goes up. -/
theorem fileSegments?_fileText (hup : ['.', '.'] ∉ components path) :
    fileSegments? (fileText path) = some ((pieces path).map encodeText) := by
  obtain ⟨text, htext, hcut⟩ := pathText_eq_cons path
  have hwhole : text.takeWhile (fun c => c != '?' && c != '#') = text := by
    refine List.takeWhile_eq_self_iff.2 fun c hc => ?_
    have hmem : c ∈ pathText path := htext ▸ List.mem_cons_of_mem _ hc
    obtain ⟨hquery, hfragment⟩ := not_delimiter_of_mem_pathText hmem
    rw [Bool.and_eq_true, bne_iff_ne, bne_iff_ne]
    exact ⟨hquery, hfragment⟩
  rw [fileSegments?, fileText_eq, htext, fileTarget?_file]
  dsimp only
  rw [hwhole, hcut, resolveSegments_of_no_dots (no_dots_of_mem_encoded hup), List.reverse_nil,
    List.nil_append]

/-- No piece is dropped from the front. -/
theorem dropLeadingEmpty_pieces (path : List Char) :
    dropLeadingEmpty ((pieces path).map encodeText) = (pieces path).map encodeText := by
  unfold pieces
  split
  next => rfl
  next hne =>
    obtain ⟨piece, ps, hps⟩ := List.exists_cons_of_ne_nil hne
    have hcomponent : isComponent piece = true :=
      (mem_components.1 (hps ▸ List.mem_cons_self : piece ∈ components path)).2
    have hsome : encodeText piece ≠ [] := by
      intro h
      rw [encodeText_inj (h.trans encodeText_nil.symm)] at hcomponent
      cases hcomponent
    rw [hps, List.map_cons]
    unfold dropLeadingEmpty
    split
    next heq =>
      injection heq with hnil
      contradiction
    next => rfl

-- ============================================ octets

/-- The octets of a path of segments, and of a slash at the end where a drive letter asks for it. -/
theorem pathBytes_eq (segments : List (List Char)) :
    pathBytes segments = segments.flatMap (fun s => 0x2F :: decodeOctets s)
      ∨ pathBytes segments = segments.flatMap (fun s => 0x2F :: decodeOctets s) ++ [0x2F] := by
  unfold pathBytes
  dsimp only
  split
  next =>
    split
    · exact .inr rfl
    · exact .inl rfl
  next => exact .inl rfl

/-- Pieces in encoded form are decoded to the octets of the path that they make up. -/
theorem decode_encoded (ps : List (List Char)) :
    (ps.map encodeText).flatMap (fun s => 0x2F :: decodeOctets s)
      = Text.bytes (String.ofList (joined '/' ps)) := by
  induction ps with
  | nil => rfl
  | cons piece ps ih =>
      rw [List.map_cons, List.flatMap_cons, ih, decodeOctets_encodeText, Text.bytes_ofList,
        Text.bytes_ofList, Text.bytes_ofList]
      show _ = List.flatMap _ ('/' :: (piece ++ joined '/' ps))
      rw [List.flatMap_cons, List.flatMap_append]
      rfl

/-- The reference of a path names the path of its pieces, perhaps with a slash at the end. -/
theorem filePath?_of_ofPath {path : String} {u : Uri} (h : ofPath path = .ok u)
    (hup : ['.', '.'] ∉ components path.toList) :
    filePath? u = some (String.ofList (joined '/' (pieces path.toList)))
      ∨ filePath? u = some (String.ofList (joined '/' (pieces path.toList ++ [[]]))) := by
  have hsegments : fileSegments? u.text.toList = some ((pieces path.toList).map encodeText) := by
    rw [(ofPath_eq_ok_iff.1 h).2, String.toList_ofList, fileSegments?_fileText hup]
  have hpath : filePath? u = Text.ofBytes? (pathBytes ((pieces path.toList).map encodeText)) := by
    rw [filePath?, hsegments]
    exact congrArg (Text.ofBytes? <| pathBytes ·) (dropLeadingEmpty_pieces path.toList)
  have hslash : joined '/' (pieces path.toList ++ [[]])
      = joined '/' (pieces path.toList) ++ ['/'] :=
    List.flatMap_append
  rcases pathBytes_eq ((pieces path.toList).map encodeText) with hbytes | hbytes
  · left
    rw [hpath, hbytes, decode_encoded, Text.ofBytes?_bytes]
  · right
    have hend : [0x2F] = Text.bytes (String.ofList ['/']) := by
      rw [Text.bytes_ofList]
      rfl
    rw [hpath, hbytes, decode_encoded, hend, ← Text.bytes_append, Text.ofBytes?_bytes,
      ← String.ofList_append, hslash]

-- ============================================ components

/-- Empty pieces at the end make no difference to the path that its pieces make up. -/
theorem components_joined_pieces {ending : List (List Char)} (h : ∀ piece ∈ ending, piece = []) :
    (joined '/' (pieces path ++ ending)).head? = some '/'
      ∧ components (joined '/' (pieces path ++ ending)) = components path := by
  refine ⟨?_, ?_⟩
  · obtain ⟨piece, ps, hps⟩ := List.exists_cons_of_ne_nil (pieces_ne_nil path)
    rw [hps]
    rfl
  · have hslash : ∀ piece ∈ pieces path ++ ending, '/' ∉ piece := by
      intro piece hpiece
      rcases List.mem_append.1 hpiece with hpiece | hpiece
      · exact not_slash_of_mem_pieces piece hpiece
      · rw [h piece hpiece]
        exact List.not_mem_nil
    have hnone : ending.filter isComponent = [] := by
      refine List.filter_eq_nil_iff.2 fun piece hpiece => ?_
      rw [h piece hpiece]
      decide
    rw [components_joined hslash, List.filter_append, filter_pieces, hnone, List.append_nil]

/-- A path without two dots for a component is named by its reference: the path that the reference
becomes is absolute too and has the same components. -/
theorem toPath_ofPath {path : String} {u : Uri} (h : ofPath path = .ok u)
    (hup : ['.', '.'] ∉ components path.toList) :
    (toPath u).toList.head? = some '/'
      ∧ components (toPath u).toList = components path.toList := by
  unfold toPath
  rcases filePath?_of_ofPath h hup with hpath | hpath
  · rw [hpath, Option.getD_some, String.toList_ofList, ← List.append_nil (pieces path.toList)]
    exact components_joined_pieces (by decide)
  · rw [hpath, Option.getD_some, String.toList_ofList]
    exact components_joined_pieces (by decide)

/-- Look-alikes of delimiters, dot segments and drive letters come back as they were. -/
theorem odd_path_named :
    ∃ u, ofPath "/C:/%2e%2e/a b/\\%2F/?q#f/.../\u0007é/D:" = .ok u
      ∧ (toPath u).toList.head? = some '/'
      ∧ components (toPath u).toList
          = components "/C:/%2e%2e/a b/\\%2F/?q#f/.../\u0007é/D:".toList := by
  obtain ⟨u, hu⟩ := (exists_ofPath_iff "/C:/%2e%2e/a b/\\%2F/?q#f/.../\u0007é/D:").2
    (by simp [misplaced])
  exact ⟨u, hu, toPath_ofPath hu (by decide +kernel)⟩

end CallExplorer.Uri
