import Scaffold.Proofs.Route.MarkerLine

/-! Positions in bytes. The cut below a marker and the indentation of a place are functions on the two
parts of a text, and a position is the number of bytes in the first part. The position below the marker
is the end of the first line that holds the marker, and from each position inside this line the same
indentation is found. -/

namespace Scaffold

namespace Text

/-- The position lies between two characters of the text, or at one of its ends. -/
def IsBoundary (t : Text) (n : Nat) : Prop :=
  ∃ before, before <+: t ∧ byteSize before = n

theorem eq_nil_of_byteSize {t : Text} (h : t.byteSize = 0) : t = [] := by
  cases t with
  | nil => rfl
  | cons c rest =>
      have hPos := c.utf8Size_pos
      rw [byteSize] at h
      omega

/-- Of two beginnings of one text the one with fewer bytes is the beginning of the other. -/
theorem prefix_of_byteSize_le {s t whole : Text} (hs : s <+: whole) (ht : t <+: whole)
    (h : s.byteSize ≤ t.byteSize) : s <+: t := by
  rcases List.prefix_or_prefix_of_prefix hs ht with hPrefix | ⟨rest, rfl⟩
  · exact hPrefix
  · rw [byteSize_append] at h
    obtain rfl : rest = [] := eq_nil_of_byteSize (by omega)
    simp

/-- The cut at the end of a beginning gives this beginning and the rest. -/
theorem cutAtByte_append_of_byteSize (before after : Text) :
    (before ++ after).cutAtByte before.byteSize = (before, after) := by
  induction before with
  | nil =>
      cases after with
      | nil => rfl
      | cons c rest =>
          have hPos := c.utf8Size_pos
          rw [List.nil_append, cutAtByte, byteSize, if_neg (by omega)]
  | cons c rest ih =>
      rw [List.cons_append, cutAtByte, byteSize, if_pos (Nat.le_add_right ..), Nat.add_sub_cancel_left,
        ih]

end Text

namespace Registry

open Text

/-- The text is the longest beginning of the line that consists of spaces and tabs. -/
structure Indents (front line : Text) : Prop where
  begins : front <+: line
  blank : ∀ c ∈ front, c = ' ' ∨ c = '\t'
  longest : ∀ other, other <+: line → (∀ c ∈ other, c = ' ' ∨ c = '\t') → other <+: front

theorem isIndent_iff {c : Char} : isIndent c ↔ c = ' ' ∨ c = '\t' := by
  simp [isIndent]

theorem indents_indent (line : Text) : Indents (indent line) line where
  begins := List.takeWhile_prefix _
  blank := fun c hc => isIndent_iff.mp (List.mem_takeWhile_imp hc)
  longest := by
    rintro other ⟨rest, rfl⟩ hOther
    have hAll : ∀ c ∈ other, isIndent c := fun c hc => isIndent_iff.mpr (hOther c hc)
    rw [indent, List.takeWhile_append_of_pos hAll]
    exact List.prefix_append _ _

/-- What is known of the first line with the marker. -/
structure Located (mark t : Text) (above : List Text) (segment : Text) (below : List Text) : Prop where
  cut : cutBelow mark t = some (above.flatten ++ segment, below.flatten)
  position : positionBelow mark t = .ok (byteSize (above.flatten ++ segment))
  boundary : IsBoundary t (byteSize (above.flatten ++ segment))
  /-- The position is the start of a line or the end of the text. -/
  lineStart : (above.flatten ++ segment).getLast? = some '\n' ∨ above.flatten ++ segment = t
  /-- The positions of the line are those from its start to its newline, or to the end of a text
  that stops before a newline. -/
  indent : ∀ n, IsBoundary t n → byteSize above.flatten ≤ n →
    n ≤ byteSize (above.flatten ++ segment.takeWhile (· ≠ '\n')) →
      Indents (indentAtByte t n) segment

variable {mark t : Text} {above below : List Text} {segment : Text}

theorem includes_iff_exists_segment (hne : mark ≠ []) (hMark : '\n' ∉ mark) :
    t.includes mark ↔ ∃ segment ∈ t.segments, segment.includes mark := by
  refine ⟨exists_segment_of_includes hne hMark, ?_⟩
  rintro ⟨segment, hMem, hIn⟩
  obtain ⟨above, below, hSegments⟩ := List.append_of_mem hMem
  exact includes_iff.mpr ((includes_iff.mp hIn).trans ⟨_, _, append_of_segments hSegments⟩)

theorem cutBelow_eq_none_iff : cutBelow mark t = none ↔ t.includes mark = false := by
  rw [cutBelow, Option.map_eq_none_iff, Text.includes, Option.isSome_eq_false_iff,
    Option.isNone_iff_eq_none]

theorem positionBelow_eq_error_iff (hne : mark ≠ []) (hMark : '\n' ∉ mark) :
    positionBelow mark t = .error (.noMarker mark) ↔
      ∀ segment ∈ t.segments, segment.includes mark = false := by
  have hNone : positionBelow mark t = .error (.noMarker mark) ↔ cutBelow mark t = none := by
    rw [positionBelow]
    cases cutBelow mark t <;> simp
  rw [hNone, cutBelow_eq_none_iff, ← Bool.not_eq_true, includes_iff_exists_segment hne hMark]
  simp

/-- Each position of a line has a beginning of that line before it. -/
theorem exists_of_inside {n : Nat} (hSegments : t.segments = above ++ segment :: below)
    (hn : IsBoundary t n) (hLow : byteSize above.flatten ≤ n)
    (hHigh : n ≤ byteSize (above.flatten ++ segment.takeWhile (· ≠ '\n'))) :
    ∃ x rest, '\n' ∉ x ∧ x ++ rest = segment ++ below.flatten ∧
      t.cutAtByte n = (above.flatten ++ x, rest) := by
  obtain ⟨before, hBefore, rfl⟩ := hn
  have hText := append_of_segments hSegments
  have hAbove : above.flatten <+: t := ⟨_, by rw [← hText, List.append_assoc]⟩
  have hLine : above.flatten ++ segment.takeWhile (· ≠ '\n') <+: t := by
    rw [← hText, List.append_assoc, List.prefix_append_right_inj]
    exact (List.takeWhile_prefix _).trans (List.prefix_append _ _)
  obtain ⟨x, rfl⟩ := prefix_of_byteSize_le hAbove hBefore hLow
  have hInside := prefix_of_byteSize_le hBefore hLine hHigh
  obtain ⟨rest, hRest⟩ := hBefore
  refine ⟨x, rest, fun hMem => ?_, ?_, ?_⟩
  · have hNewline := ((List.prefix_append_right_inj _).mp hInside).subset hMem
    simpa using List.mem_takeWhile_imp hNewline
  · rw [← hText, List.append_assoc, List.append_assoc] at hRest
    exact List.append_cancel_left hRest
  · rw [← hRest]
    exact cutAtByte_append_of_byteSize _ _

/-- Every position of a line has the indentation of that line. -/
theorem indentAtByte_eq {n : Nat} (hSegments : t.segments = above ++ segment :: below)
    (hn : IsBoundary t n) (hLow : byteSize above.flatten ≤ n)
    (hHigh : n ≤ byteSize (above.flatten ++ segment.takeWhile (· ≠ '\n'))) :
    indentAtByte t n = indent segment := by
  obtain ⟨x, rest, hx, hRest, hCut⟩ := exists_of_inside hSegments hn hLow hHigh
  obtain ⟨ls, line, -, -, rfl, hEnd⟩ := exists_of_segments hSegments
  rw [indentAtByte, hCut]
  simp only
  rw [flatten_map_newline, indentAt_ofLines_append hx, hRest]
  rcases hEnd with rfl | ⟨rfl, rfl⟩
  · rw [List.append_assoc]
    exact indent_append_cons (by decide) line _ _
  · rw [List.flatten_nil, List.append_nil]

theorem Marked.located (hne : mark ≠ []) (hMark : '\n' ∉ mark)
    (h : Marked mark t above segment below) : Located mark t above segment below where
  cut := h.cutBelow hne hMark
  position := by rw [positionBelow, h.cutBelow hne hMark]
  boundary := ⟨_, ⟨_, h.append⟩, rfl⟩
  lineStart := by
    obtain ⟨-, line, -, -, -, rfl | ⟨-, rfl⟩⟩ := exists_of_segments h.segments
    · rw [← List.append_assoc]
      exact Or.inl List.getLast?_concat
    · have hText := h.append
      rw [List.flatten_nil, List.append_nil] at hText
      exact Or.inr hText
  indent := fun n hn hLow hHigh => by
    rw [indentAtByte_eq h.segments hn hLow hHigh]
    exact indents_indent segment

/-- The marker is looked for line by line: where no line holds it the position is an error, and else
it is the end of the first line that does. -/
theorem positionBelow_by_lines (hne : mark ≠ []) (hMark : '\n' ∉ mark) (t : Text) :
    (positionBelow mark t = .error (.noMarker mark) ↔
      ∀ segment ∈ t.segments, segment.includes mark = false) ∧
    ∀ above segment below, Marked mark t above segment below → Located mark t above segment below :=
  ⟨positionBelow_eq_error_iff hne hMark, fun _ _ _ h => h.located hne hMark⟩

/-- The marker occurs three times in the first line that holds it, two of them over each other, and
again in a last line without an end. The position 8 lies behind a character of three bytes. -/
theorem positionBelow_by_lines_repeated :
    let mark : Text := "aa".toList
    let segment : Text := " \t日aaa aa\r\n".toList
    let t : Text := "é\n".toList ++ segment ++ "b aa".toList
    mark ≠ [] ∧ '\n' ∉ mark ∧ Marked mark t ["é\n".toList] segment ["b aa".toList] ∧
      positionBelow mark t = .ok 16 ∧ Indents (indentAtByte t 8) segment := by
  intro mark segment t
  have hne : mark ≠ [] := by decide
  have hMark : '\n' ∉ mark := by decide
  have hMarked : Marked mark t ["é\n".toList] segment ["b aa".toList] :=
    ⟨by decide, by decide, by decide⟩
  have hLocated := (positionBelow_by_lines hne hMark t).2 _ _ _ hMarked
  have hBoundary : IsBoundary t 8 := ⟨"é\n \t日".toList, by decide, by decide⟩
  exact ⟨hne, hMark, hMarked, hLocated.position, hLocated.indent 8 hBoundary (by decide) (by decide)⟩

end Registry

end Scaffold
