import Mathlib.Data.List.Basic
import Mathlib.Data.List.Induction
import Scaffold.Text.Lines
import Scaffold.Proofs.Text.Trimming

/-! A text falls into lines at its newlines, and a newline cuts the list of lines in two. Writing
lines and reading them again therefore gives the lines back, except that each line loses one
carriage return at its end. A splice into the middle of a line changes this line and no other. -/

namespace Scaffold.Text

/-- The line without one carriage return at its end. -/
def dropReturn (line : Line) : Line :=
  if line.getLast? = some '\r' then line.dropLast else line

/-- Every text is read line by line: it is empty, or one line without an end, or a line with its
newline and the rest. -/
@[elab_as_elim]
theorem line_induction {P : Text → Prop} (nil : P [])
    (last : ∀ line : Line, line ≠ [] → '\n' ∉ line → P line)
    (line : ∀ (line : Line) (rest : Text), '\n' ∉ line → P rest → P (line ++ '\n' :: rest))
    (t : Text) : P t := by
  induction hn : t.length using Nat.strong_induction_on generalizing t with
  | _ n ih =>
      by_cases hMem : '\n' ∈ t
      · obtain ⟨before, rest, rfl, hNot⟩ := List.eq_append_cons_of_mem hMem
        refine line before rest hNot (ih rest.length ?_ rest rfl)
        rw [← hn, List.length_append, List.length_cons]
        omega
      · by_cases hNil : t = []
        · rw [hNil]
          exact nil
        · exact last t hNil hMem

theorem segments_append_newline (s t : Text) :
    segments (s ++ '\n' :: t) = segments (s ++ ['\n']) ++ segments t := by
  induction s with
  | nil => rfl
  | cons c s ih =>
      by_cases hc : c = '\n'
      · simp [segments, hc, ih]
      · have hSome : segments (s ++ ['\n']) ≠ [] := by
          intro hNil
          have hFlat := flatten_segments (s ++ ['\n'])
          simp [hNil] at hFlat
        obtain ⟨piece, more, hCut⟩ := List.exists_cons_of_ne_nil hSome
        simp [segments, hc, ih, hCut]

theorem segments_of_no_newline {s : Text} (hne : s ≠ []) (h : '\n' ∉ s) : segments s = [s] := by
  induction s with
  | nil => exact absurd rfl hne
  | cons c s ih =>
      have hc : c ≠ '\n' := fun hEq => h (hEq ▸ List.mem_cons_self ..)
      have hRest : '\n' ∉ s := fun hMem => h (List.mem_cons_of_mem _ hMem)
      by_cases hs : s = []
      · simp [segments, hc, hs]
      · simp [segments, hc, ih hs hRest]

theorem segments_line {line : Line} (h : '\n' ∉ line) :
    segments (line ++ ['\n']) = [line ++ ['\n']] := by
  induction line with
  | nil => rfl
  | cons c line ih =>
      have hc : c ≠ '\n' := fun hEq => h (hEq ▸ List.mem_cons_self ..)
      have hRest : '\n' ∉ line := fun hMem => h (List.mem_cons_of_mem _ hMem)
      simp [segments, hc, ih hRest]

theorem chomp_append_newline (line : Line) : chomp (line ++ ['\n']) = dropReturn line := by
  induction line using List.reverseRecOn with
  | nil => rfl
  | append_singleton line c _ =>
      by_cases hc : c = '\r'
      · simp [chomp, dropReturn, hc]
      · simp [chomp, dropReturn, hc]

theorem chomp_of_no_newline {s : Text} (h : '\n' ∉ s) : chomp s = s := by
  induction s using List.reverseRecOn with
  | nil => rfl
  | append_singleton s c _ =>
      have hc : c ≠ '\n' := fun hEq => h (hEq ▸ by simp)
      simp [chomp, hc]

@[simp] theorem lines_nil : lines [] = [] := rfl

/-- A newline cuts the lines of the text into those before it and those behind it. -/
theorem lines_append_newline (s t : Text) :
    lines (s ++ '\n' :: t) = lines (s ++ ['\n']) ++ lines t := by
  rw [lines, lines, lines, segments_append_newline, List.map_append]

theorem lines_of_no_newline {s : Text} (hne : s ≠ []) (h : '\n' ∉ s) : lines s = [s] := by
  rw [lines, segments_of_no_newline hne h, List.map_singleton, chomp_of_no_newline h]

theorem lines_line_append {line : Line} (h : '\n' ∉ line) (rest : Text) :
    lines (line ++ '\n' :: rest) = dropReturn line :: lines rest := by
  rw [lines_append_newline, lines, segments_line h, List.map_singleton, chomp_append_newline]
  rfl

theorem segments_ofLines {ls : List Line} (h : ∀ line ∈ ls, '\n' ∉ line) :
    segments (ofLines ls) = ls.map (· ++ ['\n']) := by
  induction ls with
  | nil => rfl
  | cons line ls ih =>
      have hRest : ∀ other ∈ ls, '\n' ∉ other := fun other hMem =>
        h other (List.mem_cons_of_mem _ hMem)
      rw [ofLines_cons, segments_append_newline, segments_line (h line (List.mem_cons_self ..)),
        ih hRest]
      rfl

/-- Written lines are read again as they are, up to a carriage return at their ends. -/
theorem lines_ofLines {ls : List Line} (h : ∀ line ∈ ls, '\n' ∉ line) :
    lines (ofLines ls) = ls.map dropReturn := by
  rw [lines, segments_ofLines h, List.map_map]
  exact List.map_congr_left fun line _ => chomp_append_newline line

theorem ofLines_injective {ls ms : List Line} (hl : ∀ line ∈ ls, '\n' ∉ line)
    (hm : ∀ line ∈ ms, '\n' ∉ line) (h : ofLines ls = ofLines ms) : ls = ms := by
  have hSegments := congrArg segments h
  rw [segments_ofLines hl, segments_ofLines hm] at hSegments
  exact (List.append_left_injective ['\n']).list_map hSegments

theorem mem_of_mem_dropReturn {line : Line} {c : Char} (h : c ∈ dropReturn line) : c ∈ line := by
  unfold dropReturn at h
  split at h
  · exact List.dropLast_subset _ h
  · exact h

theorem newline_notMem_of_mem_lines {t : Text} {line : Line} (h : line ∈ lines t) :
    '\n' ∉ line := by
  induction t using line_induction with
  | nil => cases h
  | last s hne hs =>
      rw [lines_of_no_newline hne hs, List.mem_singleton] at h
      rwa [h]
  | line first rest hFirst ih =>
      rw [lines_line_append hFirst] at h
      rcases List.mem_cons.mp h with rfl | hRest
      · exact fun hMem => hFirst (mem_of_mem_dropReturn hMem)
      · exact ih hRest

theorem mem_of_mem_lines {t : Text} {line : Line} {c : Char} (h : line ∈ lines t)
    (hc : c ∈ line) : c ∈ t := by
  induction t using line_induction with
  | nil => cases h
  | last s hne hs =>
      rw [lines_of_no_newline hne hs, List.mem_singleton] at h
      rwa [← h]
  | line first rest hFirst ih =>
      rw [lines_line_append hFirst] at h
      rcases List.mem_cons.mp h with rfl | hRest
      · exact List.mem_append_left _ (mem_of_mem_dropReturn hc)
      · exact List.mem_append_right _ (List.mem_cons_of_mem _ (ih hRest))

theorem dropReturn_of_getLast? {line : Line} (h : line.getLast? ≠ some '\r') :
    dropReturn line = line := by
  rw [dropReturn, if_neg h]

theorem dropReturn_eq_self_iff {line : Line} :
    dropReturn line = line ↔ line.getLast? ≠ some '\r' := by
  constructor
  · intro h hLast
    rw [dropReturn, if_pos hLast] at h
    have hLength := congrArg List.length h
    rw [List.length_dropLast] at hLength
    have hPos : 0 < line.length := List.length_pos_of_mem (List.mem_of_getLast? hLast)
    omega
  · exact dropReturn_of_getLast?

theorem length_dropReturn_le (line : Line) : (dropReturn line).length ≤ line.length := by
  unfold dropReturn
  split
  · rw [List.length_dropLast]
    omega
  · exact le_rfl

/-- A line is its shortened form, with or without a carriage return behind it. -/
theorem eq_dropReturn_append (line : Line) :
    line = dropReturn line ∨ line = dropReturn line ++ ['\r'] := by
  by_cases hLast : line.getLast? = some '\r'
  · right
    rw [dropReturn, if_pos hLast]
    exact (List.dropLast_append_getLast? _ hLast).symm
  · left
    rw [dropReturn, if_neg hLast]

@[simp] theorem trim_dropReturn (line : Line) : trim (dropReturn line) = trim line := by
  rcases eq_dropReturn_append line with h | h
  · rw [← h]
  · conv => rhs; rw [h]
    rw [trim_append_blank (List.all_eq_true.mp (by decide))]

theorem includes_nil {pat : Text} (hne : pat ≠ []) : includes [] pat = false := by
  cases pat with
  | nil => exact absurd rfl hne
  | cons c pat => rfl

theorem includes_dropReturn {pat : Text} (hne : pat ≠ []) (hpat : '\r' ∉ pat) (line : Line) :
    (dropReturn line).includes pat = line.includes pat := by
  rcases eq_dropReturn_append line with h | h
  · rw [← h]
  · conv => rhs; rw [h]
    rw [includes_append_cons hne hpat, includes_nil hne, Bool.or_false]

/-- Segments are whole lines, except that the last one may lack its newline. -/
theorem exists_of_segments {t : Text} {above below : List Text} {segment : Text}
    (h : segments t = above ++ segment :: below) :
    ∃ (ls : List Line) (line : Line), (∀ other ∈ ls, '\n' ∉ other) ∧ '\n' ∉ line ∧
      above = ls.map (· ++ ['\n']) ∧
      (segment = line ++ ['\n'] ∨ segment = line ∧ below = []) := by
  induction t using line_induction generalizing above with
  | nil => simp [segments] at h
  | last s hne hs =>
      rw [segments_of_no_newline hne hs] at h
      obtain ⟨rfl, rfl, rfl⟩ : above = [] ∧ segment = s ∧ below = [] := by
        cases above with
        | nil => simpa [eq_comm] using h
        | cons first above => simp at h
      exact ⟨[], segment, by simp, hs, rfl, Or.inr ⟨rfl, rfl⟩⟩
  | line first rest hFirst ih =>
      rw [segments_append_newline, segments_line hFirst] at h
      cases above with
      | nil =>
          obtain ⟨rfl, rfl⟩ := List.cons.inj h
          exact ⟨[], first, by simp, hFirst, rfl, Or.inl rfl⟩
      | cons piece above =>
          obtain ⟨rfl, hRest⟩ := List.cons.inj h
          obtain ⟨ls, line, hls, hLine, rfl, hSegment⟩ := ih hRest
          refine ⟨first :: ls, line, fun other hMem => ?_, hLine, rfl, hSegment⟩
          rcases List.mem_cons.mp hMem with rfl | hMem
          · exact hFirst
          · exact hls other hMem

theorem segments_ofLines_append {ls : List Line} (h : ∀ line ∈ ls, '\n' ∉ line) (rest : Text) :
    segments (ofLines ls ++ rest) = ls.map (· ++ ['\n']) ++ segments rest := by
  induction ls with
  | nil => rfl
  | cons line ls ih =>
      have hRest : ∀ other ∈ ls, '\n' ∉ other := fun other hMem =>
        h other (List.mem_cons_of_mem _ hMem)
      rw [ofLines_cons, List.append_assoc, List.cons_append, segments_append_newline,
        segments_line (h line (List.mem_cons_self ..)), ih hRest]
      rfl

theorem flatten_map_newline (ls : List Line) : (ls.map (· ++ ['\n'])).flatten = ofLines ls :=
  (List.flatMap_def ..).symm

theorem append_of_segments {t : Text} {above below : List Text} {segment : Text}
    (h : segments t = above ++ segment :: below) : above.flatten ++ segment ++ below.flatten = t := by
  rw [← flatten_segments t, h]
  simp

/-- What stands behind a segment falls into the segments behind it. -/
theorem segments_flatten_below {t : Text} {above below : List Text} {segment : Text}
    (h : segments t = above ++ segment :: below) : segments below.flatten = below := by
  obtain ⟨ls, line, hls, hLine, rfl, rfl | ⟨-, rfl⟩⟩ := exists_of_segments h
  · have hWhole : ∀ other ∈ ls ++ [line], '\n' ∉ other := by
      simpa [or_imp, forall_and] using ⟨hls, hLine⟩
    have hText : t = ofLines (ls ++ [line]) ++ below.flatten := by
      rw [← append_of_segments h, flatten_map_newline, ofLines_append]
      simp
    rw [hText, segments_ofLines_append hWhole, List.map_append, List.append_assoc] at h
    exact (List.cons.inj (List.append_cancel_left h)).2
  · rfl

@[simp] theorem trim_chomp (s : Text) : trim (chomp s) = trim s := by
  induction s using List.reverseRecOn with
  | nil => rfl
  | append_singleton s c _ =>
      by_cases hc : c = '\n'
      · rw [hc, chomp_append_newline, trim_dropReturn,
          trim_append_blank (List.all_eq_true.mp (by decide))]
      · simp [chomp, hc]

theorem includes_chomp {pat : Text} (hne : pat ≠ []) (hNewline : '\n' ∉ pat) (hReturn : '\r' ∉ pat)
    (s : Text) : (chomp s).includes pat = s.includes pat := by
  induction s using List.reverseRecOn with
  | nil => rfl
  | append_singleton s c _ =>
      by_cases hc : c = '\n'
      · rw [hc, chomp_append_newline, includes_dropReturn hne hReturn,
          includes_append_cons hne hNewline, includes_nil hne, Bool.or_false]
      · simp [chomp, hc]

theorem map_trim_lines (t : Text) : t.lines.map trim = t.segments.map trim := by
  rw [lines, List.map_map]
  exact List.map_congr_left fun s _ => trim_chomp s

theorem cutAtLast_eq_none_iff {c : Char} {t : Text} : cutAtLast c t = none ↔ c ∉ t := by
  induction t with
  | nil => simp [cutAtLast]
  | cons x t ih =>
      rw [cutAtLast, List.mem_cons, not_or]
      cases hCut : cutAtLast c t with
      | none =>
          have hRest : c ∉ t := ih.mp hCut
          by_cases hx : x = c
          · simp [hx]
          · simp [hx, hRest, Ne.symm hx]
      | some parts =>
          have hRest : c ∈ t := by
            by_contra hNot
            rw [ih.mpr hNot] at hCut
            cases hCut
          simp [hRest]

theorem cutAtLast_append_cons {c : Char} {rest : Text} (h : c ∉ rest) (before : Text) :
    cutAtLast c (before ++ c :: rest) = some (before, c :: rest) := by
  induction before with
  | nil => rw [List.nil_append, cutAtLast, cutAtLast_eq_none_iff.mpr h, if_pos rfl]
  | cons x before ih => rw [List.cons_append, cutAtLast, ih]

theorem exists_of_cutAtLast {c : Char} {t before after : Text}
    (h : cutAtLast c t = some (before, after)) :
    ∃ rest, after = c :: rest ∧ t = before ++ c :: rest ∧ c ∉ rest := by
  have hMem : c ∈ t.reverse := by
    rw [List.mem_reverse]
    by_contra hNot
    rw [cutAtLast_eq_none_iff.mpr hNot] at h
    cases h
  obtain ⟨back, front, hSplit, hBack⟩ := List.eq_append_cons_of_mem hMem
  have hText : t = front.reverse ++ c :: back.reverse := by
    rw [← List.reverse_reverse t, hSplit]
    simp
  have hRest : c ∉ back.reverse := by simpa using hBack
  rw [hText, cutAtLast_append_cons hRest] at h
  obtain ⟨rfl, rfl⟩ := Prod.mk.inj (Option.some.inj h)
  exact ⟨back.reverse, rfl, hText, hRest⟩

/-- The line that is going on at the end of a text. -/
theorem exists_lineStart (before : Text) :
    ∃ (above : List Line) (x : Text), '\n' ∉ x ∧
      ∀ rest, lines (before ++ rest) = above ++ lines (x ++ rest) := by
  cases hCut : cutAtLast '\n' before with
  | none => exact ⟨[], before, cutAtLast_eq_none_iff.mp hCut, fun _ => rfl⟩
  | some parts =>
      obtain ⟨front, back⟩ := parts
      obtain ⟨x, -, rfl, hx⟩ := exists_of_cutAtLast hCut
      refine ⟨lines (front ++ ['\n']), x, hx, fun rest => ?_⟩
      rw [List.append_assoc, List.cons_append, lines_append_newline]

/-- The line that is cut behind the character `c`, which is not part of a line end. -/
theorem exists_lineEnd (rest : Text) {c : Char} (hNewline : c ≠ '\n') (hReturn : c ≠ '\r') :
    ∃ (y : Text) (below : List Line),
      (∀ d ∈ y, d ∈ rest) ∧ (∀ line ∈ below, ∀ d ∈ line, d ∈ rest) ∧
      ∀ x, '\n' ∉ x → lines (x ++ c :: rest) = (x ++ c :: y) :: below := by
  induction rest using line_induction with
  | nil =>
      refine ⟨[], [], by simp, by simp, fun x hx => ?_⟩
      exact lines_of_no_newline (by simp) (by simp [hx, Ne.symm hNewline])
  | last y hne hy =>
      refine ⟨y, [], fun _ hd => hd, by simp, fun x hx => ?_⟩
      exact lines_of_no_newline (by simp) (by simp [hx, hy, Ne.symm hNewline])
  | line y rest hy _ =>
      refine ⟨dropReturn y, lines rest, fun d hd => ?_, fun line hLine d hd => ?_, fun x hx => ?_⟩
      · exact List.mem_append_left _ (mem_of_mem_dropReturn hd)
      · exact List.mem_append_right _ (List.mem_cons_of_mem _ (mem_of_mem_lines hLine hd))
      · have hWhole : '\n' ∉ x ++ c :: y := by simp [hx, hy, Ne.symm hNewline]
        have hLine := lines_line_append hWhole rest
        rw [List.append_assoc, List.cons_append] at hLine
        rw [hLine]
        have hBack : dropReturn (x ++ c :: y) = x ++ c :: dropReturn y := by
          by_cases hNil : y = []
          · rw [hNil]
            exact dropReturn_of_getLast? (by simp [hReturn])
          · have hEnd : (x ++ c :: y).getLast? = y.getLast? := by
              rw [List.getLast?_append_of_ne_nil _ (by simp), List.getLast?_cons_of_ne_nil hNil]
            by_cases hLast : y.getLast? = some '\r'
            · rw [dropReturn, dropReturn, hEnd, if_pos hLast, if_pos hLast,
                List.dropLast_append_of_ne_nil (by simp), List.dropLast_cons_of_ne_nil hNil]
            · rw [dropReturn, dropReturn, hEnd, if_neg hLast, if_neg hLast]
        rw [hBack]

/-- A line put in front of the character `c` takes over what stands before `c` on its line. No
other line changes. -/
theorem exists_lines_splice (before rest : Text) {c : Char} (hNewline : c ≠ '\n')
    (hReturn : c ≠ '\r') :
    ∃ (above : List Line) (x y : Text) (below : List Line),
      (∀ d ∈ y, d ∈ rest) ∧ (∀ line ∈ below, ∀ d ∈ line, d ∈ rest) ∧
      lines (before ++ c :: rest) = above ++ (x ++ c :: y) :: below ∧
      ∀ line, '\n' ∉ line → lines (before ++ line ++ '\n' :: c :: rest) =
        above ++ dropReturn (x ++ line) :: (c :: y) :: below := by
  obtain ⟨above, x, hx, hStart⟩ := exists_lineStart before
  obtain ⟨y, below, hy, hBelow, hEnd⟩ := exists_lineEnd rest hNewline hReturn
  refine ⟨above, x, y, below, hy, hBelow, ?_, fun line hLine => ?_⟩
  · rw [hStart, hEnd x hx]
  · have hWhole : '\n' ∉ x ++ line := by simp [hx, hLine]
    have hRest := hEnd [] (by simp)
    rw [List.nil_append, List.nil_append] at hRest
    rw [List.append_assoc, hStart, ← List.append_assoc, lines_line_append hWhole, hRest]

end Scaffold.Text
