import Scaffold.Proofs.Text.Search
import Scaffold.Route.Addition

namespace Scaffold.Registry

open Text

/-- The text falls into the segments `above`, the first segment with the marker, and the segments
`below`. -/
structure Marked (mark t : Text) (above : List Text) (segment : Text) (below : List Text) : Prop where
  segments : t.segments = above ++ segment :: below
  first : ∀ other ∈ above, other.includes mark = false
  includes : segment.includes mark

/-- The spaces and tabs at the start of the text. -/
def indent (t : Text) : Text :=
  t.takeWhile isIndent

variable {mark t : Text} {above below : List Text} {segment : Text}

theorem Marked.append (h : Marked mark t above segment below) :
    above.flatten ++ segment ++ below.flatten = t :=
  append_of_segments h.segments

/-- A text with the marker has a first line with the marker. -/
theorem exists_marked (hne : mark ≠ []) (hMark : '\n' ∉ mark) (h : t.includes mark) :
    ∃ above segment below, Marked mark t above segment below := by
  obtain ⟨found, hMem, hFound⟩ := exists_segment_of_includes hne hMark h
  cases hFind : t.segments.find? fun segment => segment.includes mark with
  | none => exact absurd hFound (List.find?_eq_none.mp hFind found hMem)
  | some segment =>
      obtain ⟨hIn, above, below, hSegments, hNone⟩ := List.find?_eq_some_iff_append.mp hFind
      exact ⟨above, segment, below, hSegments, fun other hOther => by simpa using hNone other hOther,
        hIn⟩

theorem newline_notMem_of_segment {before more : Text} {line : Line} (hLine : '\n' ∉ line)
    (hMore : more ≠ []) (h : before ++ more = line ++ ['\n'] ∨ before ++ more = line) :
    '\n' ∉ before := by
  have hFront : before <+: line := by
    rcases h with h | h
    · have hPrefix : before <+: line ++ ['\n'] := h ▸ List.prefix_append before more
      refine (List.prefix_concat_iff.mp hPrefix).resolve_left fun hAll => hMore ?_
      rwa [← hAll, List.append_right_eq_self] at h
    · exact h ▸ List.prefix_append before more
  exact fun hMem => hLine (hFront.subset hMem)

/-- The first occurrence of the marker is the first one in its segment. -/
theorem Marked.cutAtFirst (hne : mark ≠ []) (hMark : '\n' ∉ mark)
    (h : Marked mark t above segment below) :
    ∃ before rest, segment = before ++ (mark ++ rest) ∧ '\n' ∉ before ∧
      t.cutAtFirst mark = some (above.flatten ++ before, mark ++ (rest ++ below.flatten)) := by
  obtain ⟨ls, line, -, hLine, rfl, hEnd⟩ := exists_of_segments h.segments
  have hNone : ∀ other ∈ ls, other.includes mark = false := by
    intro other hMem
    have hSegment := h.first _ (List.mem_map_of_mem hMem)
    rw [includes_append_cons hne hMark, Bool.or_eq_false_iff] at hSegment
    exact hSegment.1
  obtain ⟨⟨before, after⟩, hCut⟩ := Option.isSome_iff_exists.mp h.includes
  obtain ⟨rest, rfl⟩ := prefix_of_cutAtFirst hCut
  have hSegment : before ++ (mark ++ rest) = segment := append_of_cutAtFirst hCut
  refine ⟨before, rest, hSegment.symm, ?_, ?_⟩
  · rw [← hSegment] at hEnd
    exact newline_notMem_of_segment hLine (by simp [hne]) (hEnd.imp_right And.left)
  · rw [← h.append, flatten_map_newline, List.append_assoc, cutAtFirst_ofLines_append hMark hNone,
      cutAtFirst_append hCut, List.append_assoc]
    rfl

/-- The cut below the marker is the cut below its line. -/
theorem Marked.cutBelow (hne : mark ≠ []) (hMark : '\n' ∉ mark)
    (h : Marked mark t above segment below) :
    cutBelow mark t = some (above.flatten ++ segment, below.flatten) := by
  obtain ⟨before, rest, hSegment, -, hCut⟩ := h.cutAtFirst hne hMark
  obtain ⟨-, line, -, hLine, -, hEnd⟩ := exists_of_segments h.segments
  rw [hSegment] at hEnd
  have hAfter : cutAfterLine (rest ++ below.flatten) = (rest, below.flatten) := by
    rcases hEnd with hEnd | ⟨rfl, rfl⟩
    · -- The newline of the segment stands behind the marker, which has none.
      rcases List.eq_nil_or_concat' rest with rfl | ⟨x, c, rfl⟩
      · have hLast := congrArg List.getLast? hEnd
        rw [List.append_nil, List.getLast?_append_of_ne_nil _ hne, List.getLast?_concat] at hLast
        exact absurd (List.mem_of_getLast? hLast) hMark
      · rw [← List.append_assoc, ← List.append_assoc] at hEnd
        obtain ⟨rfl, hBack⟩ := List.append_inj' hEnd rfl
        obtain rfl := List.singleton_injective hBack
        have hRest : '\n' ∉ x := fun hMem => hLine (List.mem_append_right _ hMem)
        rw [List.append_assoc, List.singleton_append, cutAfterLine_line_append hRest]
    · have hRest : '\n' ∉ rest := fun hMem => hLine (by simp [hMem])
      rw [List.flatten_nil, List.append_nil, cutAfterLine_of_no_newline hRest]
  rw [Registry.cutBelow, hCut, hSegment]
  simp only [Option.map_some, List.drop_left, hAfter, List.append_assoc]

theorem takeWhile_reverse_ofLines (ls : List Line) :
    (ofLines ls).reverse.takeWhile (· ≠ '\n') = [] := by
  rcases List.eq_nil_or_concat' ls with rfl | ⟨ls, line, rfl⟩
  · rfl
  · rw [ofLines_append, ofLines_cons, ofLines_nil, List.reverse_append, List.reverse_append]
    rfl

/-- The indentation of a place is the indentation of its line. -/
theorem indentAt_ofLines_append {ls : List Line} {x : Text} (hx : '\n' ∉ x) (rest : Text) :
    indentAt (ofLines ls ++ x) rest = indent (x ++ rest) := by
  have hLine : ∀ c ∈ x.reverse, decide (c ≠ '\n') = true := by
    intro c hc
    rw [List.mem_reverse] at hc
    exact decide_eq_true fun hEq => hx (hEq ▸ hc)
  rw [indentAt, List.reverse_append, List.takeWhile_append_of_pos hLine, takeWhile_reverse_ofLines,
    List.append_nil, List.reverse_reverse]
  rfl

/-- A character that does not indent ends the indentation. -/
theorem indent_append_cons {c : Char} (hc : isIndent c = false) (x rest other : Text) :
    indent (x ++ c :: rest) = indent (x ++ c :: other) := by
  induction x with
  | nil => simp [indent, hc]
  | cons d x ih =>
      rw [List.cons_append, List.cons_append, indent, indent, List.takeWhile_cons,
        List.takeWhile_cons]
      split
      · exact congrArg (d :: ·) ih
      · rfl

theorem indent_append_singleton {c : Char} (hc : isIndent c = false) (x : Text) :
    indent (x ++ [c]) = indent x := by
  induction x with
  | nil => simp [indent, hc]
  | cons d x ih =>
      rw [List.cons_append, indent, indent, List.takeWhile_cons, List.takeWhile_cons]
      split
      · exact congrArg (d :: ·) ih
      · rfl

theorem Marked.markerIndent (h : Marked marker t above segment below) :
    markerIndent t = indent segment := by
  obtain ⟨before, rest, rfl, hBefore, hCut⟩ := h.cutAtFirst (by decide) (by decide)
  obtain ⟨ls, -, -, -, rfl, -⟩ := exists_of_segments h.segments
  have hSlash : marker = '/' :: marker.tail := rfl
  rw [Registry.markerIndent, hCut, flatten_map_newline]
  simp only
  rw [indentAt_ofLines_append hBefore, hSlash]
  exact indent_append_cons (by decide) before _ _

end Scaffold.Registry
