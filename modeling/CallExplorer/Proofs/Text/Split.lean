/-
Cutting and joining.

A text of pieces, each with the separator in front of it, is cut into these pieces again, behind
an empty one (`splitAt_joined`), as long as no piece holds the separator itself. The pieces of any
text never do; they hold what the text holds, less the separators.
-/
import CallExplorer.Text.Split

namespace CallExplorer.Text

variable {sep c : Char} {cs piece : List Char} {pieces : List (List Char)}

theorem splitAt_cons_sep (sep : Char) (cs : List Char) :
    splitAt sep (sep :: cs) = [] :: splitAt sep cs := by
  rw [splitAt, if_pos rfl]

theorem splitAt_cons (hc : c ≠ sep) (h : splitAt sep cs = piece :: pieces) :
    splitAt sep (c :: cs) = (c :: piece) :: pieces := by
  rw [splitAt, if_neg hc, h]

/-- What stands in front of the first separator belongs to the first piece. -/
theorem splitAt_append (hpiece : sep ∉ piece) {first : List Char}
    (h : splitAt sep cs = first :: pieces) :
    splitAt sep (piece ++ cs) = (piece ++ first) :: pieces := by
  induction piece with
  | nil => exact h
  | cons c piece ih =>
      rw [List.mem_cons, not_or] at hpiece
      exact splitAt_cons (Ne.symm hpiece.1) (ih hpiece.2)

-- ============================================ pieces with a separator in front

/-- The text of pieces with the separator in front of each. -/
def joined (sep : Char) (pieces : List (List Char)) : List Char :=
  pieces.flatMap fun piece => sep :: piece

theorem splitAt_joined (h : ∀ piece ∈ pieces, sep ∉ piece) :
    splitAt sep (joined sep pieces) = [] :: pieces := by
  induction pieces with
  | nil => rfl
  | cons piece pieces ih =>
      have hrest := ih fun p hp => h p (List.mem_cons_of_mem piece hp)
      have hpiece := splitAt_append (h piece List.mem_cons_self) hrest
      rw [List.append_nil] at hpiece
      show splitAt sep (sep :: (piece ++ joined sep pieces)) = _
      rw [splitAt_cons_sep, hpiece]

-- ============================================ what pieces hold

/-- What a piece holds is in the text, and is no separator. -/
theorem mem_of_mem_splitAt (h : piece ∈ splitAt sep cs) (hc : c ∈ piece) : c ∈ cs ∧ c ≠ sep := by
  induction cs generalizing piece with
  | nil =>
      rw [splitAt, List.mem_singleton] at h
      rw [h] at hc
      cases hc
  | cons d cs ih =>
      obtain ⟨first, pieces, hcs⟩ := List.exists_cons_of_ne_nil (splitAt_ne_nil sep cs)
      have hlater : ∀ {p}, p ∈ splitAt sep cs → c ∈ p → c ∈ d :: cs ∧ c ≠ sep :=
        fun hp hc => ⟨List.mem_cons_of_mem d (ih hp hc).1, (ih hp hc).2⟩
      by_cases hd : d = sep
      · subst hd
        rw [splitAt_cons_sep, List.mem_cons] at h
        rcases h with rfl | h
        · cases hc
        · exact hlater h hc
      · rw [splitAt_cons hd hcs, List.mem_cons] at h
        rcases h with rfl | h
        · rcases List.mem_cons.1 hc with rfl | hc
          · exact ⟨List.mem_cons_self, hd⟩
          · exact hlater (hcs ▸ List.mem_cons_self) hc
        · exact hlater (hcs ▸ List.mem_cons_of_mem first h) hc

/-- Every other character is in some piece. -/
theorem exists_mem_splitAt (hmem : c ∈ cs) (hc : c ≠ sep) :
    ∃ piece ∈ splitAt sep cs, c ∈ piece := by
  induction cs with
  | nil => cases hmem
  | cons d cs ih =>
      obtain ⟨first, pieces, hcs⟩ := List.exists_cons_of_ne_nil (splitAt_ne_nil sep cs)
      by_cases hd : d = sep
      · subst hd
        rw [splitAt_cons_sep]
        obtain ⟨piece, hpiece, hin⟩ := ih ((List.mem_cons.1 hmem).resolve_left hc)
        exact ⟨piece, List.mem_cons_of_mem _ hpiece, hin⟩
      · rw [splitAt_cons hd hcs]
        rcases List.mem_cons.1 hmem with rfl | hmem
        · exact ⟨_, List.mem_cons_self, List.mem_cons_self⟩
        · obtain ⟨piece, hpiece, hin⟩ := ih hmem
          rw [hcs, List.mem_cons] at hpiece
          rcases hpiece with rfl | hpiece
          · exact ⟨_, List.mem_cons_self, List.mem_cons_of_mem d hin⟩
          · exact ⟨piece, List.mem_cons_of_mem _ hpiece, hin⟩

end CallExplorer.Text
