/-
The shape of a tree, read from its outline.

An outline has a line for each row, and the spaces in front tell the depth. But names, descriptions
and paths are texts of others, and one of them may hold a line feed or begin with spaces of its own.
`Row.OneLine` asks of a row that it does no such thing. Then the lines of an outline are found
again by cutting it at the line feeds, and so are the depths (`lines_of_outline`).

# Parents

The depths say which row is whose child. The parent of a row is the nearest one before it that lies
higher (`Row.parentAt`). That this is no mere convention is due to the order in which a listing
works off its pending nodes. These are never followed by deeper ones. So when a node is shown at
last, all that was shown since it was named lies below its siblings, and what named it is the
nearest that lies higher (`Unrolls.placed`).

# What this closes

`outline_tells_shape`, for any two listings that succeed, of any explorers, to any limits, and
whether or not their sessions turn on the way.
-/
import Mathlib.Data.List.Permutation
import CallExplorer.Proofs.Past
import CallExplorer.Proofs.Text.Digits
import CallExplorer.Proofs.Text.Split
import CallExplorer.Proofs.Tree.SiblingOrder
import CallExplorer.Proofs.Tree.Turning

namespace CallExplorer

variable {σ τ : Type} {e : Explorer σ} {limit : Nat} {s : σ} {r : Row} {rows : List Row}

-- ============================================ lines

namespace Text

/-- The number of spaces that a line begins with. -/
def indentation (line : List Char) : Nat := (line.takeWhile (· = ' ')).length

/-- A text of lines that all end in a line feed. -/
def ofLines (lines : List (List Char)) : List Char := lines.flatMap (· ++ ['\n'])

theorem indentation_eq {n : Nat} {c : Char} (hc : c ≠ ' ') (cs : List Char) :
    indentation (List.replicate n ' ' ++ c :: cs) = n := by
  have hspaces : ∀ x ∈ List.replicate n ' ', decide (x = ' ') = true :=
    fun x hx => decide_eq_true (List.eq_of_mem_replicate hx)
  unfold indentation
  rw [List.takeWhile_append_of_pos hspaces, List.takeWhile_cons_of_neg (by simpa using hc),
    List.append_nil, List.length_replicate]

/-- Lines are pieces, once a line feed is put in front. -/
theorem joined_ofLines (lines : List (List Char)) :
    '\n' :: ofLines lines = joined '\n' (lines ++ [[]]) := by
  induction lines with
  | nil => rfl
  | cons line lines ih =>
      show '\n' :: ((line ++ ['\n']) ++ ofLines lines) = ('\n' :: line) ++ joined '\n' (lines ++ [[]])
      rw [← ih]
      simp

/-- A text has its lines in one way only. -/
theorem ofLines_injective {lines lines' : List (List Char)} (hlines : ∀ line ∈ lines, '\n' ∉ line)
    (hlines' : ∀ line ∈ lines', '\n' ∉ line) (h : ofLines lines = ofLines lines') :
    lines = lines' := by
  have hpieces : ∀ {ls : List (List Char)}, (∀ line ∈ ls, '\n' ∉ line) →
      ∀ piece ∈ ls ++ [[]], '\n' ∉ piece := by
    intro ls hls
    rw [List.forall_mem_append]
    exact ⟨hls, by simp⟩
  have hcut := splitAt_joined (hpieces hlines)
  have hcut' := splitAt_joined (hpieces hlines')
  rw [← joined_ofLines, h, joined_ofLines, hcut'] at hcut
  exact (List.append_cancel_right (List.cons.inj hcut).2).symm

theorem not_mem_decimal (n : Nat) : '\n' ∉ (decimal n).toList := by
  intro h
  rw [toList_decimal] at h
  exact absurd (isDigit_of_mem_decimal h) (by decide)

end Text

open Text (ofLines indentation)

-- ============================================ rows on one line

namespace Row

/-- The row stays on its line, and what it says there does not begin with a space. Of the call
sites only the first one is shown. -/
structure OneLine (r : Row) : Prop where
  named : r.label.name ≠ ""
  begins : r.label.name.toList.head? ≠ some ' '
  name : '\n' ∉ r.label.name.toList
  description : ∀ text ∈ r.label.description, '\n' ∉ text.toList
  site : ∀ first ∈ (r.locations.getD []).head?, '\n' ∉ first.uri.toPath.toList

instance (r : Row) : Decidable r.OneLine :=
  decidable_of_iff
    (r.label.name ≠ "" ∧ r.label.name.toList.head? ≠ some ' ' ∧ '\n' ∉ r.label.name.toList
      ∧ (∀ text ∈ r.label.description, '\n' ∉ text.toList)
      ∧ ∀ first ∈ (r.locations.getD []).head?, '\n' ∉ first.uri.toPath.toList)
    ⟨fun ⟨h₁, h₂, h₃, h₄, h₅⟩ => ⟨h₁, h₂, h₃, h₄, h₅⟩, fun ⟨h₁, h₂, h₃, h₄, h₅⟩ => ⟨h₁, h₂, h₃, h₄, h₅⟩⟩

/-- The line of a row without the line feed. -/
def lineChars (r : Row) : List Char := List.replicate (2 * r.depth) ' ' ++ r.lineText.toList

theorem toList_outline (rows : List Row) : (outline rows).toList = ofLines (rows.map lineChars) := by
  rw [outline, String.toList_join, ofLines, List.flatMap_map, List.flatMap_map]
  refine List.flatMap_congr fun r _ => ?_
  rw [line, String.toList_append, String.toList_append, String.toList_ofList, lineChars]
  rfl

theorem not_mem_display {l : Location} (h : '\n' ∉ l.uri.toPath.toList) :
    '\n' ∉ l.display.toList := by
  have hcolon : '\n' ∉ (":" : String).toList := by decide
  simp only [Location.display, String.toList_append, List.mem_append, not_or]
  exact ⟨⟨⟨⟨h, hcolon⟩, Text.not_mem_decimal _⟩, hcolon⟩, Text.not_mem_decimal _⟩

theorem not_mem_sitesText {ls : List Location}
    (h : ∀ first ∈ ls.head?, '\n' ∉ first.uri.toPath.toList) : '\n' ∉ (sitesText ls).toList := by
  have hat : '\n' ∉ (" @ " : String).toList := by decide
  have hplus : '\n' ∉ (" +" : String).toList := by decide
  match ls with
  | [] => exact List.not_mem_nil
  | [first] =>
      simp only [sitesText, String.toList_append, List.mem_append, not_or]
      exact ⟨hat, not_mem_display (h first rfl)⟩
  | first :: second :: rest =>
      simp only [sitesText, String.toList_append, List.mem_append, not_or]
      exact ⟨⟨⟨hat, not_mem_display (h first rfl)⟩, hplus⟩, Text.not_mem_decimal _⟩

theorem OneLine.not_mem (h : r.OneLine) : '\n' ∉ r.lineChars := by
  have hspaces : '\n' ∉ List.replicate (2 * r.depth) ' ' := fun hmem =>
    absurd (List.eq_of_mem_replicate hmem) (by decide)
  have hdeprecated : '\n' ∉ (if r.label.deprecated then " [deprecated]" else "").toList := by
    cases r.label.deprecated <;> decide
  have hopen : '\n' ∉ (" (" : String).toList := by decide
  have hclose : '\n' ∉ (")" : String).toList := by decide
  rw [lineChars, List.mem_append, not_or]
  refine ⟨hspaces, ?_⟩
  simp only [lineText, String.toList_append, List.mem_append, not_or]
  refine ⟨⟨⟨h.name, hdeprecated⟩, ?_⟩, not_mem_sitesText h.site⟩
  -- only a description that is there says anything
  cases hd : r.label.description with
  | none => exact List.not_mem_nil
  | some text =>
      simp only [String.toList_append, List.mem_append, not_or]
      exact ⟨⟨hopen, h.description text hd⟩, hclose⟩

theorem OneLine.indentation_eq (h : r.OneLine) : indentation r.lineChars = 2 * r.depth := by
  have hnamed : r.label.name.toList ≠ [] := fun hnil => h.named (String.toList_eq_nil_iff.1 hnil)
  obtain ⟨c, cs, hname⟩ := List.exists_cons_of_ne_nil hnamed
  have hc : c ≠ ' ' := by
    rintro rfl
    exact h.begins (by rw [hname]; rfl)
  rw [lineChars, lineText]
  simp only [String.toList_append, hname, List.cons_append]
  exact Text.indentation_eq hc _

/-- An outline has a line for each row, indented by its depth. -/
theorem lines_of_outline (h : ∀ r ∈ rows, r.OneLine) :
    ∃ lines, (outline rows).toList = ofLines lines
      ∧ List.Forall₂ (fun r line => '\n' ∉ line ∧ indentation line = 2 * r.depth) rows lines := by
  refine ⟨rows.map lineChars, toList_outline rows, ?_⟩
  rw [List.forall₂_map_right_iff, List.forall₂_same]
  exact fun r hr => ⟨(h r hr).not_mem, (h r hr).indentation_eq⟩

/-- The outline tells the depths. -/
theorem depths_of_outline {rows' : List Row} (h : ∀ r ∈ rows, r.OneLine)
    (h' : ∀ r ∈ rows', r.OneLine) (htext : outline rows = outline rows') :
    rows.map (·.depth) = rows'.map (·.depth) := by
  have hno : ∀ {rs : List Row}, (∀ r ∈ rs, r.OneLine) → ∀ line ∈ rs.map lineChars, '\n' ∉ line :=
    fun hrs => List.forall_mem_map.2 fun r hr => (hrs r hr).not_mem
  have hchars : rows.map lineChars = rows'.map lineChars := by
    apply Text.ofLines_injective (hno h) (hno h')
    rw [← toList_outline, ← toList_outline, htext]
  have hdepths : ∀ {rs : List Row}, (∀ r ∈ rs, r.OneLine) →
      (rs.map lineChars).map indentation = (rs.map (·.depth)).map (2 * ·) := by
    intro rs hrs
    rw [List.map_map, List.map_map]
    exact List.map_congr_left fun r hr => (hrs r hr).indentation_eq
  have htwice := hdepths h
  rw [hchars, hdepths h'] at htwice
  have hinjective : Function.Injective fun n : Nat => 2 * n := fun m n hmn => by
    have : 2 * m = 2 * n := hmn
    omega
  exact (List.map_injective_iff.2 hinjective htwice).symm

end Row

-- ============================================ the nearest that lies higher

/-- The number of the last depth that is less than the given one. -/
def lastHigher (depth : Nat) : List Nat → Option Nat
  | [] => none
  | k :: ks =>
    match lastHigher depth ks with
    | some i => some (i + 1)
    | none => if k < depth then some 0 else none

theorem lastHigher_eq_none {depth : Nat} {ks : List Nat} (h : ∀ k ∈ ks, depth ≤ k) :
    lastHigher depth ks = none := by
  induction ks with
  | nil => rfl
  | cons k ks ih =>
      rw [List.forall_mem_cons] at h
      rw [lastHigher, ih h.2]
      exact if_neg (Nat.not_lt.2 h.1)

theorem lastHigher_eq_some {depth k : Nat} {before behind : List Nat} (hk : k < depth)
    (hbehind : ∀ m ∈ behind, depth ≤ m) :
    lastHigher depth (before ++ k :: behind) = some before.length := by
  induction before with
  | nil =>
      rw [List.nil_append, lastHigher, lastHigher_eq_none hbehind]
      exact if_pos hk
  | cons m before ih =>
      rw [List.cons_append, lastHigher, ih]
      rfl

/-- The number of the parent of the row with the given number: the nearest one before it that lies
higher. -/
def Row.parentAt (rows : List Row) (i : Nat) : Option Nat :=
  let depths := rows.map (·.depth)
  depths[i]?.bind fun depth => lastHigher depth (depths.take i)

-- ============================================ parents

/-- The node was named by one that was shown before it, and nothing was shown since that lies as
high as that one. -/
def Placed (before : List (Showing σ)) (v : Showing σ) : Prop :=
  ∃ u, Since (· = u) (·.node.depth ≤ u.node.depth) before ∧ u.Names v.node

theorem Placed.mono {before : List (Showing σ)} {v : Showing σ} (h : Placed before v)
    (ahead : List (Showing σ)) : Placed (ahead ++ before) v := by
  obtain ⟨u, hsince, hnames⟩ := h
  exact ⟨u, since_append.2 (.inl hsince), hnames⟩

theorem Showing.Names.depth_eq {u : Showing σ} {n : Node} (h : u.Names n) :
    n.depth = u.node.depth + 1 := by
  obtain ⟨r, links, l, -, -, -, hshows⟩ := h
  exact Node.depth_of_parent hshows.parent

/-- Pending nodes of which none is followed by a deeper one are shown before anything that lies
higher, and all other nodes are placed. -/
theorem Unrolls.placed {pending : List Node} {shown : List (Showing σ)} {stop : Option Failure}
    (h : Unrolls e limit s pending shown stop)
    (hfalling : pending.Pairwise fun m n => n.depth ≤ m.depth) :
    AtEach (fun before v => (v.node ∈ pending ∧ ∀ u ∈ before, v.node.depth ≤ u.node.depth)
      ∨ Placed before v) shown := by
  induction h with
  | done => exact atEach_nil
  | @leaf s n rest behind stop hdepth hbehind ih =>
      rw [List.pairwise_cons] at hfalling
      rw [atEach_cons]
      refine ⟨.inl ⟨List.mem_cons_self, by simp⟩, (ih hfalling.2).imp fun before v hv => ?_⟩
      rcases hv with ⟨hmem, hle⟩ | hplaced
      · refine .inl ⟨List.mem_cons_of_mem n hmem, List.forall_mem_cons.2 ⟨?_, hle⟩⟩
        exact hfalling.1 v.node hmem
      · exact .inr (hplaced.mono [_])
  | @stops s n rest f hdepth hanswer =>
      rw [atEach_cons]
      exact ⟨.inl ⟨List.mem_cons_self, by simp⟩, atEach_nil⟩
  | @inner s n links rest behind stop hdepth hanswer hbehind ih =>
      rw [List.pairwise_cons] at hfalling
      have hkids : ∀ c ∈ Node.sorted (n.children (e.direction s) links), c.depth = n.depth + 1 :=
        fun c hc => Node.depth_of_mem_children (Node.mem_sorted.1 hc)
      -- the children are deeper than what was pending behind their parent
      have hpending : (Node.sorted (n.children (e.direction s) links) ++ rest).Pairwise
          fun m n => n.depth ≤ m.depth := by
        refine List.pairwise_append.2 ⟨?_, hfalling.2, fun c hc m hm => ?_⟩
        · refine List.pairwise_of_forall_mem_list fun a ha b hb => ?_
          exact Nat.le_of_eq ((hkids b hb).trans (hkids a ha).symm)
        · have := hfalling.1 m hm
          have := hkids c hc
          omega
      rw [atEach_cons]
      refine ⟨.inl ⟨List.mem_cons_self, by simp⟩, (ih hpending).imp fun before v hv => ?_⟩
      rcases hv with ⟨hmem, hle⟩ | hplaced
      · rcases List.mem_append.1 hmem with hchild | hrest
        · -- nothing was shown since that lies as high as the parent
          obtain ⟨l, hl, hnode⟩ := List.mem_map.1 (Node.mem_sorted.1 hchild)
          have hdeeper := hkids v.node hchild
          refine .inr ⟨_, ⟨[], _, before, rfl, rfl, fun u hu => ?_⟩,
            e.resolution n s, links, l, rfl, hanswer, hl, ?_⟩
          · have := hle u hu
            show ¬ u.node.depth ≤ n.depth
            omega
          · rw [← hnode]
            exact Node.shows_child _ _ l
        · refine .inl ⟨List.mem_cons_of_mem n hrest, List.forall_mem_cons.2 ⟨?_, hle⟩⟩
          exact hfalling.1 v.node hrest
      · exact .inr (hplaced.mono [_])

/-- The row with the number is that of a root if the depths tell no parent, and else it was named by
the row that they tell. -/
def ParentTold (e : Explorer σ) (shown : List (Showing σ)) (rows : List Row) : Prop :=
  ∀ i v, shown[i]? = some v →
    match Row.parentAt rows i with
    | none => ∃ root ∈ e.roots, v.node = .root root
    | some j => ∃ u, shown[j]? = some u ∧ u.Names v.node

/-- The depths of a listing tell the parents. -/
theorem Unrolls.parentTold {shown : List (Showing σ)} {stop : Option Failure}
    (h : Unrolls e limit s (Node.sorted e.rootNodes) shown stop) :
    ParentTold e shown (shown.map Showing.row) := by
  have hroots : ∀ n ∈ Node.sorted e.rootNodes, ∃ root ∈ e.roots, n = .root root := by
    intro n hn
    obtain ⟨root, hroot, rfl⟩ := List.mem_map.1 (Node.mem_sorted.1 hn)
    exact ⟨root, hroot, rfl⟩
  have hfalling : (Node.sorted e.rootNodes).Pairwise fun m n => n.depth ≤ m.depth := by
    refine List.pairwise_of_forall_mem_list fun a ha b hb => ?_
    obtain ⟨_, -, rfl⟩ := hroots a ha
    obtain ⟨_, -, rfl⟩ := hroots b hb
    exact Nat.le_refl 0
  intro i v hv
  obtain ⟨hi, hget⟩ := List.getElem?_eq_some_iff.1 hv
  have hparts : shown = shown.take i ++ v :: shown.drop (i + 1) := by
    rw [← hget, List.getElem_cons_drop, List.take_append_drop]
  have hlength : (shown.take i).length = i := List.length_take_of_le (Nat.le_of_lt hi)
  have htold : Row.parentAt (shown.map Showing.row) i
      = lastHigher v.node.depth ((shown.take i).map (·.node.depth)) := by
    unfold Row.parentAt
    simp only [List.map_map, List.getElem?_map, hv, List.map_take]
    rfl
  rw [htold]
  rcases h.placed hfalling (shown.take i) v _ hparts with ⟨hroot, hle⟩ | ⟨u, hsince, hnames⟩
  · rw [lastHigher_eq_none (List.forall_mem_map.2 hle)]
    exact hroots v.node hroot
  · obtain ⟨before, _, behind, hbefore, rfl, hdeeper⟩ := hsince
    have hdepth := hnames.depth_eq
    have hlast : lastHigher v.node.depth ((shown.take i).map (·.node.depth))
        = some before.length := by
      rw [hbefore, List.map_append, List.map_cons, lastHigher_eq_some (by omega), List.length_map]
      refine List.forall_mem_map.2 fun w hw => ?_
      have := hdeeper w hw
      omega
    rw [hlast]
    refine ⟨_, ?_, hnames⟩
    rw [hparts, hbefore]
    simp

-- ============================================ whole listings

theorem Row.parentAt_congr {rows rows' : List Row}
    (h : rows.map (·.depth) = rows'.map (·.depth)) (i : Nat) :
    Row.parentAt rows i = Row.parentAt rows' i := by
  unfold Row.parentAt
  rw [h]

/-- The rows of a listing that succeeds tell the parents by their depths. -/
theorem parentTold_of_expand {rows : List Row} (h : (e.expand limit s).result = .ok rows) :
    ∃ shown : List (Showing σ), rows = shown.map Showing.row ∧ ParentTold e shown rows := by
  obtain ⟨shown, stop, events, hunrolls, hlist, -⟩ :=
    unrolls_list e limit (Node.sorted e.rootNodes) s []
  obtain ⟨more, hexpand⟩ := Explorer.expand_eq hlist
  rw [hexpand] at h
  cases stop with
  | some f => cases h
  | none =>
      injection h with h
      subst h
      exact ⟨shown, rfl, hunrolls.parentTold⟩

/-- The outline of rows is made of lines that end in a line feed and hold no other: one for each
row, in order, and indented by two spaces for each level. And the depths tell for each row whether
it is that of a root, and else which row named it. -/
structure Outlined (e : Explorer σ) (rows : List Row) : Prop where
  lines : ∃ lines, (Row.outline rows).toList = ofLines lines
    ∧ List.Forall₂ (fun r line => '\n' ∉ line ∧ indentation line = 2 * r.depth) rows lines
  parents : ∃ shown : List (Showing σ), rows = shown.map Showing.row ∧ ParentTold e shown rows

/-- An outline tells the shape of the tree. Take two listings that succeed, of any explorers, from
any states and to any limits, and let all their rows be on one line each. Then the lines of the
outlines are the rows and tell their depths, and the depths tell the parents: the parent of a row
is the nearest one before it that lies higher. So if the outlines are the same text, there are as
many rows in both, with the same depths and the same parents. -/
theorem outline_tells_shape {e' : Explorer τ} {limit' : Nat} {t : τ} {rows' : List Row}
    (h : (e.expand limit s).result = .ok rows) (h' : (e'.expand limit' t).result = .ok rows')
    (hline : ∀ r ∈ rows, r.OneLine) (hline' : ∀ r ∈ rows', r.OneLine) :
    Outlined e rows ∧ Outlined e' rows'
      ∧ (Row.outline rows = Row.outline rows' →
        rows.length = rows'.length ∧ rows.map (·.depth) = rows'.map (·.depth)
          ∧ ∀ i, Row.parentAt rows i = Row.parentAt rows' i) := by
  refine ⟨⟨Row.lines_of_outline hline, parentTold_of_expand h⟩,
    ⟨Row.lines_of_outline hline', parentTold_of_expand h'⟩, ?_⟩
  intro htext
  have hdepths := Row.depths_of_outline hline hline' htext
  have hlength := congrArg List.length hdepths
  rw [List.length_map, List.length_map] at hlength
  exact ⟨hlength, hdepths, Row.parentAt_congr hdepths⟩

namespace Sample

/-- What is shown of the program: its roots, with the two functions called by the first. -/
def shown : List Node :=
  let main := Node.root (function "main" 0)
  [main, .child (function "scan" 1) [⟨main.item.uri, ⟨⟨0, 5⟩, ⟨0, 9⟩⟩⟩] main,
    .child (function "show" 2) [⟨main.item.uri, ⟨⟨0, 7⟩, ⟨0, 9⟩⟩⟩] main, .root (function "scan" 1)]

end Sample

/-- Two listings of a program, one of them to a limit that it does not reach. -/
theorem outlines_of_sample :
    let e := Sample.program.provider.explorer
    ∃ rows rows', (e.expand 1 ⟨.outgoing, ()⟩).result = .ok rows
      ∧ (e.expand 7 ⟨.outgoing, ()⟩).result = .ok rows'
      ∧ (∀ r ∈ rows, r.OneLine) ∧ (∀ r ∈ rows', r.OneLine)
      ∧ Outlined e rows ∧ Outlined e rows'
      ∧ Row.outline rows = Row.outline rows'
      ∧ rows.length = rows'.length ∧ rows.map (·.depth) = rows'.map (·.depth)
      ∧ ∀ i, Row.parentAt rows i = Row.parentAt rows' i := by
  intro e
  have hrows : (e.expand 1 ⟨.outgoing, ()⟩).result
      = .ok (Sample.shown.map (.ofNode .outgoing)) := by
    cbv
  have hrows' : (e.expand 7 ⟨.outgoing, ()⟩).result
      = .ok (Sample.shown.map (.ofNode .outgoing)) := by
    cbv
  have hline : ∀ r ∈ Sample.shown.map (Row.ofNode .outgoing), r.OneLine := by decide +kernel
  obtain ⟨houtlined, houtlined', hshape⟩ := outline_tells_shape hrows hrows' hline hline
  exact ⟨_, _, hrows, hrows', hline, hline, houtlined, houtlined', rfl, hshape rfl⟩

/-- The first and the last row are those of roots, and the others have the first one as parent. -/
example : (Sample.program.provider.explorer.expand 1 ⟨.outgoing, ()⟩).result.map
    (fun rows => (List.range 4).map (Row.parentAt rows)) = .ok [none, some 0, some 0, none] := by
  cbv

end CallExplorer
