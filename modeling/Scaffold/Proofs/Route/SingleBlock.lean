import Mathlib.Data.List.DropRight
import Scaffold.Proofs.Route.Binding
import Scaffold.Proofs.Route.RoundTrip

/-! Route files with one block: one line closes a block, it holds the last brace of the text, and
what stands before it arms bindings. A statement that is added to such a file lands right above the
closing line, where it is a binding. The zones of the file get the one new binding and otherwise stay
as they are, and the file has one block again. -/

namespace Scaffold.RouteFile

open Text Surroundings

/-- Lines around the one that closes the only block of a file. -/
structure Block (above : List Line) (brace : Line) (below : List Line) : Prop where
  noReturn : ∀ line ∈ above ++ brace :: below, line.getLast? ≠ some '\r'
  closes : brace.closes
  /-- No other line closes a block. -/
  others : ∀ line ∈ above ++ below, line.closes = false
  /-- The closing line holds one closing brace. -/
  once : brace.count '\x7d' = 1
  behind : ∀ line ∈ below, '\x7d' ∉ line ∧ line.includes "Routes.".toList = false
  armed : Armed above

/-- The text has one block, and bindings can stand at its end. -/
def SingleBlock (t : Text) : Prop :=
  ∃ above brace below, t.lines = above ++ brace :: below ∧ Block above brace below

theorem trimStart_blank_append {a : Text} (ha : ∀ c ∈ a, isBlank c) (t : Text) :
    trimStart (a ++ t) = trimStart t :=
  List.dropWhile_append_of_pos ha

theorem trimStart_brace (y : Text) : trimStart ('\x7d' :: y) = '\x7d' :: y :=
  List.dropWhile_cons_of_neg (by decide)

/-- A line that closes a block is its brace and what follows, behind blanks. -/
theorem exists_of_closes {line : Line} (h : line.closes) :
    ∃ a y, line = a ++ '\x7d' :: y ∧ ∀ c ∈ a, isBlank c := by
  obtain ⟨a, b, hEq, ha, -⟩ := exists_outer line
  rw [closes, Bool.and_eq_true, beq_iff_eq] at h
  obtain ⟨rest, hRest⟩ := List.head?_eq_some_iff.mp h.1
  rw [hRest, List.append_assoc, List.cons_append] at hEq
  exact ⟨a, rest ++ b, hEq, ha⟩

theorem brace_notMem_of_blank {a : Text} (ha : ∀ c ∈ a, isBlank c) : '\x7d' ∉ a := by
  intro hMem
  have hBlank := ha _ hMem
  revert hBlank
  decide

/-- The closing line of a block is blanks, a brace, and no further brace. -/
theorem Block.exists_brace {above below : List Line} {brace : Line}
    (h : Block above brace below) :
    ∃ a y, brace = a ++ '\x7d' :: y ∧ (∀ c ∈ a, isBlank c) ∧ '\x7d' ∉ y := by
  obtain ⟨a, y, rfl, ha⟩ := exists_of_closes h.closes
  refine ⟨a, y, rfl, ha, ?_⟩
  have hOnce := h.once
  rw [List.count_append, List.count_eq_zero.mpr (brace_notMem_of_blank ha),
    List.count_cons_self] at hOnce
  exact List.count_eq_zero.mp (by omega)

/-- In a file with one block the statement stands right above the closing line, which loses its
indentation. -/
theorem Block.lines_spliced {t statement : Text} {above below : List Line} {brace : Line}
    (hLines : t.lines = above ++ brace :: below) (h : Block above brace below)
    (hWhole : '\n' ∉ statement) (hEnd : statement.getLast? = some ')') :
    ∃ a grown, (∀ c ∈ a, isBlank c) ∧ spliced t statement = .ok grown ∧
      grown.lines = (above ++ [a ++ '\t' :: statement]) ++ brace.trimStart :: below := by
  obtain ⟨a, z, hBrace, ha, hz⟩ := h.exists_brace
  rw [hBrace] at hLines
  obtain ⟨grown, hSpliced, hGrown⟩ := exists_spliced_of_lines hLines hz
    (fun line hMem => (h.behind line hMem).1) hWhole hEnd
  have hTrim : trimStart brace = '\x7d' :: z := by
    rw [hBrace, trimStart_blank_append ha, trimStart_brace]
  refine ⟨a, grown, ha, hSpliced, ?_⟩
  rw [hGrown, hTrim, List.append_assoc]
  rfl

theorem armed_solid {ls : List Line} (h : Armed ls) : Armed (solid ls) := by
  obtain ⟨opening, group, hPair, hOpens, hGroup⟩ := h
  refine ⟨opening, group, ?_, hOpens, hGroup⟩
  have hBoth : solid [opening, group] = [opening, group] := by
    rw [solid_cons_of_solid (isEmptyLine_eq_false rfl opens_of_trim_eq hOpens),
      solid_cons_of_solid (isEmptyLine_eq_false rfl namesGroup_of_trim_eq hGroup)]
    rfl
  rw [← hBoth]
  exact hPair.filter _

section Zones

variable {t : Text} {above below : List Line} {brace : Line}

theorem Block.not_isBindable (h : Block above brace below) {line : Line} (hMem : line ∈ below) :
    line.isBindable = false := by
  rw [isBindable, (h.behind line hMem).2]
  rfl

theorem Block.solid_above (h : Block above brace below) :
    ∀ line ∈ solid above, line.closes = false := fun line hMem =>
  h.others line (List.mem_append_left _ (List.mem_of_mem_filter hMem))

theorem Block.armed_preamble (h : Block above brace below) :
    Armed (keptLines {} (solid above)) :=
  (armed_keptLines _).2 (afterLines_of_armed h.solid_above (armed_solid h.armed)).2

/-- What is not bound above the closing line and all that stands below it is preamble. -/
theorem Block.ofText_eq (hLines : t.lines = above ++ brace :: below)
    (h : Block above brace below) :
    ofText t =
      { preamble := keptLines {} (solid above) ++ solid below
        bindings := sortLines ((boundLines {} (solid above)).map Text.trim)
        closing := [brace] } := by
  have hSolid : t.solidLines = solid above ++ ([brace] ++ solid below) := by
    have hFull : brace.isEmptyLine = false :=
      isEmptyLine_eq_false rfl closes_of_trim_eq h.closes
    rw [solidLines, hLines, solid_append, solid_cons_of_solid hFull]
    rfl
  have hBrace : ∀ line ∈ [brace], line.closes := by
    simpa using h.closes
  have hBelow (s : Surroundings) : boundLines s (solid below) = [] :=
    boundLines_eq_nil fun line hMem => h.not_isBindable (List.mem_of_mem_filter hMem)
  have hKept (s : Surroundings) : keptLines s (solid below) = solid below :=
    keptLines_eq_self (fun line hMem =>
      h.others line (List.mem_append_right _ (List.mem_of_mem_filter hMem))) (hBelow s)
  have hNone {ls : List Line} (hSub : ls ⊆ above ++ below) : (solid ls).filter Text.closes = [] :=
    List.filter_eq_nil_iff.mpr fun line hMem => by
      simp [h.others line (hSub (List.mem_of_mem_filter hMem))]
  rw [RouteFile.ofText_eq, hSolid, keptLines_append, keptLines_append, boundLines_append,
    boundLines_append, (zones_of_closing hBrace).1, (zones_of_closing hBrace).2, hKept, hBelow,
    List.filter_append, List.filter_append, hNone (List.subset_append_left _ _),
    hNone (List.subset_append_right _ _), List.filter_eq_self.mpr hBrace]
  simp only [List.append_nil, List.nil_append]

/-- The zones of a file with one block come back when they are written and read again. -/
theorem Block.faithful (hLines : t.lines = above ++ brace :: below)
    (h : Block above brace below) : Faithful (ofText t) := by
  have hRegular := regular_ofText t
  have hZones := h.ofText_eq hLines
  refine
    { toRegular := hRegular
      noReturn := fun line hMem => h.noReturn line ?_
      settled := (boundLines_eq_nil_iff hRegular.preamble).mp ?_ }
  · rw [hZones] at hMem
    rw [List.mem_append, List.mem_append, List.mem_singleton] at hMem
    rcases hMem with (hAbove | hBelow) | rfl
    · exact List.mem_append_left _
        (List.mem_of_mem_filter ((keptLines_sublist _ _).subset hAbove))
    · exact List.mem_append_right _
        (List.mem_cons_of_mem _ (List.mem_of_mem_filter hBelow))
    · exact List.mem_append_right _ (List.mem_cons_self ..)
  · rw [hZones, boundLines_append, boundLines_keptLines h.solid_above, List.nil_append]
    exact boundLines_eq_nil fun line hMem => h.not_isBindable (List.mem_of_mem_filter hMem)

theorem Block.singleBlock_canonical (hLines : t.lines = above ++ brace :: below)
    (h : Block above brace below) : SingleBlock (canonical t) := by
  have hFaithful := h.faithful hLines
  have hZones := h.ofText_eq hLines
  have hClosing : (ofText t).closing = [brace] := congrArg RouteFile.closing hZones
  obtain ⟨hPreamble, hLast⟩ := hFaithful.map_dropReturn
  refine ⟨(ofText t).preamble ++ (ofText t).bindings.map ('\t' :: ·), brace, [], ?_, ?_⟩
  · rw [canonical, lines_render hFaithful.toRegular, hPreamble, hLast, hClosing]
  refine
    { noReturn := fun line hMem => ?_
      closes := h.closes
      others := fun line hMem => ?_
      once := h.once
      behind := fun line hMem => by cases hMem
      armed := ?_ }
  · rcases List.mem_append.mp hMem with hMem | hMem
    · rcases List.mem_append.mp hMem with hMem | hMem
      · exact hFaithful.noReturn line (List.mem_append_left _ hMem)
      · obtain ⟨short, hShort, rfl⟩ := List.mem_map.mp hMem
        refine dropReturn_eq_self_iff.mp (dropReturn_tab_of_bare (hFaithful.bare short hShort) ?_)
        exact ne_nil_of_solid (hFaithful.solid short (by simp [hShort]))
    · rw [← hClosing] at hMem
      exact hFaithful.noReturn line (List.mem_append_right _ hMem)
  · rw [List.append_nil] at hMem
    rcases List.mem_append.mp hMem with hMem | hMem
    · exact hFaithful.preamble line hMem
    · exact closes_of_isBindable (hFaithful.isBindable_of_mem_written hMem)
  · rw [hZones, List.append_assoc]
    exact h.armed_preamble.mono (List.sublist_append_left _ _)

/-- A block with one more binding line above a closing line that has lost its indentation. -/
theorem Block.grow (h : Block above brace below) {line : Line} (hLine : line.isBindable)
    (hReturn : line.getLast? ≠ some '\r') : Block (above ++ [line]) brace.trimStart below := by
  obtain ⟨a, y, hBrace, ha, hy⟩ := h.exists_brace
  have hTrim : trimStart brace = '\x7d' :: y := by
    rw [hBrace, trimStart_blank_append ha, trimStart_brace]
  refine
    { noReturn := fun other hMem => ?_
      closes := ?_
      others := fun other hMem => ?_
      once := ?_
      behind := h.behind
      armed := h.armed.mono (List.sublist_append_left _ _) }
  · rw [List.append_assoc, List.mem_append, List.mem_append, List.mem_singleton,
      List.mem_cons] at hMem
    rcases hMem with hAbove | rfl | rfl | hBelow
    · exact h.noReturn other (List.mem_append_left _ hAbove)
    · exact hReturn
    · have hLast : brace.getLast? = brace.trimStart.getLast? := by
        rw [hTrim, hBrace, List.getLast?_append_of_ne_nil _ (by simp)]
      rw [← hLast]
      exact h.noReturn brace (by simp)
    · exact h.noReturn other (by simp [hBelow])
  · have hSame : brace.trimStart.trim = brace.trim := by
      rw [hTrim, hBrace, trim_blank_append ha]
    rw [closes_of_trim_eq hSame]
    exact h.closes
  · rw [List.append_assoc, List.mem_append, List.mem_append, List.mem_singleton] at hMem
    rcases hMem with hAbove | rfl | hBelow
    · exact h.others other (List.mem_append_left _ hAbove)
    · exact closes_of_isBindable hLine
    · exact h.others other (List.mem_append_right _ hBelow)
  · rw [hTrim, List.count_cons_self, List.count_eq_zero.mpr hy]

end Zones

/-- The zones with more bindings and without the indentation of the closing lines. -/
def withBindings (f : RouteFile) (added : List Line) : RouteFile where
  preamble := f.preamble
  bindings := sortLines (f.bindings ++ added)
  closing := f.closing.map trimStart

theorem sortLines_sortLines_append (as bs : List Line) :
    sortLines (sortLines as ++ bs) = sortLines (as ++ bs) :=
  sortLines_eq_of_perm ((sortLines_perm as).append_right bs)

theorem withBindings_withBindings (f : RouteFile) (as bs : List Line) :
    (f.withBindings as).withBindings bs = f.withBindings (as ++ bs) := by
  have hStart : (f.closing.map trimStart).map trimStart = f.closing.map trimStart := by
    rw [List.map_map]
    exact List.map_congr_left fun line _ => List.dropWhile_idempotent isBlank line
  rw [withBindings, withBindings, withBindings, hStart, sortLines_sortLines_append,
    List.append_assoc]

theorem withBindings_eq_of_perm (f : RouteFile) {as bs : List Line} (h : as.Perm bs) :
    f.withBindings as = f.withBindings bs := by
  rw [withBindings, withBindings, sortLines_eq_of_perm (h.append_left f.bindings)]

theorem Block.ofText_grow {t grown : Text} {above below : List Line} {brace line : Line}
    (hLines : t.lines = above ++ brace :: below) (h : Block above brace below)
    (hGrown : grown.lines = (above ++ [line]) ++ brace.trimStart :: below)
    (hLine : line.isBindable) (hReturn : line.getLast? ≠ some '\r') :
    ofText grown = (ofText t).withBindings [line.trim] := by
  have hSolid : solid (above ++ [line]) = solid above ++ [line] := by
    rw [solid_append,
      solid_cons_of_solid (isEmptyLine_eq_false rfl isBindable_of_trim_eq hLine)]
    rfl
  obtain ⟨hBlock, hGroup⟩ := afterLines_of_armed h.solid_above (armed_solid h.armed)
  have hOnly : ∀ other ∈ [line], other.isBindable := by
    simpa using hLine
  obtain ⟨hKept, hBound⟩ := zones_of_bindable hBlock hGroup hOnly
  rw [(h.grow hLine hReturn).ofText_eq hGrown, h.ofText_eq hLines, hSolid, keptLines_append,
    boundLines_append, hKept, hBound, withBindings, sortLines_sortLines_append, List.append_nil,
    List.map_append]
  rfl

/-- Adding a binding to a file with one block does not fail. A binding that was not there is one of
the bindings afterwards, and the file has one block again. -/
theorem addBinding_singleBlock {t : Text} {names : RouteNames} (ht : SingleBlock t)
    (hNames : names.Admissible) (hNew : names.binding ∉ (ofText t).bindings) :
    ∃ new, addBinding t names = .ok (.applied new) ∧ SingleBlock new ∧
      ofText new = (ofText t).withBindings [names.binding] ∧ render (ofText new) = new := by
  obtain ⟨above, brace, below, hLines, hBlock⟩ := ht
  obtain ⟨a, grown, ha, hSpliced, hGrown⟩ :=
    hBlock.lines_spliced hLines hNames.whole names.getLast?_binding
  have hTrim : trim (a ++ '\t' :: names.binding) = names.binding := by
    rw [trim_blank_append ha, trim_tab, hNames.requested.trim_binding]
  have hLine : isBindable (a ++ '\t' :: names.binding) := by
    rw [isBindable_of_trim_eq (hTrim.trans hNames.requested.trim_binding.symm)]
    exact hNames.isBindable_binding
  have hLast : (a ++ '\t' :: names.binding).getLast? ≠ some '\r' := by
    rw [getLast?_indented names.getLast?_binding]
    decide
  have hGrow := hBlock.grow hLine hLast
  have hZones := hBlock.ofText_grow hLines hGrown hLine hLast
  rw [hTrim] at hZones
  have hBack : ofText (canonical grown) = ofText grown :=
    ofText_render_of_faithful (hGrow.faithful hGrown)
  refine ⟨canonical grown, ?_, hGrow.singleBlock_canonical hGrown, hBack.trans hZones, ?_⟩
  · refine addBinding_eq_applied_iff.mpr ⟨?_, grown, hSpliced, rfl⟩
    exact Bool.eq_false_iff.mpr fun hBinds => hNew ((binds_eq_true_iff hNames.requested).mp hBinds)
  · rw [hBack]
    rfl

end Scaffold.RouteFile
