import Scaffold.Proofs.Route.SingleBlock

/-! A binding that is added twice. The second addition looks for the statement among the bindings of
the new text, and the canonical form in between takes a line for a binding as soon as it stands behind
a group, whatever closing lines are in between. So the statement is found again if its line is its own
and a group is named above it, and it is added once more if the last closing brace of the text stands
in the middle of a line or above the group. -/

namespace Scaffold.RouteFile

open Text Surroundings

/-- Some line reads as the statement and, closing lines aside, stands behind a line that names a
group and this one behind a line that opens a block. -/
def BoundAmong (statement : Line) (ls : List Line) : Prop :=
  ∃ above line below, ls = above ++ line :: below ∧ line.trim = statement ∧
    Armed (above.filter fun other => !other.closes)

/-- The text with the statement in it has the statement where it will be a binding. -/
def FoundAgain (t statement : Text) : Prop :=
  ∃ grown, spliced t statement = .ok grown ∧ BoundAmong statement grown.lines

/-- The last closing brace of the text stands at the start of its line, and above that line a block
is opened and a group is named behind its start. -/
def EndsBelowGroup (t : Text) : Prop :=
  ∃ above x y below, t.lines = above ++ (x ++ '\x7d' :: y) :: below ∧ '\x7d' ∉ y ∧
    (∀ line ∈ below, '\x7d' ∉ line) ∧ (∀ c ∈ x, isBlank c) ∧
    Armed (above.filter fun other => !other.closes)

variable {t statement : Text} {ls : List Line}

theorem append_singleton_sublist_iff {α : Type} {as ls : List α} {a : α} :
    (as ++ [a]).Sublist ls ↔ ∃ front back, ls = front ++ a :: back ∧ as.Sublist front := by
  constructor
  · intro h
    obtain ⟨front, rest, rfl, hFront, hRest⟩ := List.append_sublist_iff.mp h
    obtain ⟨mid, back, rfl⟩ := List.append_of_mem (List.singleton_sublist.mp hRest)
    exact ⟨front ++ mid, back, by simp, hFront.trans (List.sublist_append_left _ _)⟩
  · rintro ⟨front, back, rfl, hFront⟩
    exact hFront.append (List.singleton_sublist.mpr (List.mem_cons_self ..))

/-- What can be no binding and closes no block is kept wherever it stands. -/
theorem filter_sublist_keptLines (s : Surroundings) (ls : List Line) :
    (ls.filter fun line => !line.closes && !line.isBindable).Sublist (keptLines s ls) := by
  induction ls generalizing s with
  | nil => exact List.Sublist.refl _
  | cons line ls ih =>
      rw [keptLines_cons]
      by_cases hKept : (!line.closes && !line.isBindable) = true
      · obtain ⟨hCloses, hBindable⟩ : line.closes = false ∧ line.isBindable = false := by
          simpa using hKept
        have hClosing : s.roleOf line ≠ .closing := by
          rw [Ne, roleOf_eq_closing_iff, hCloses]
          exact Bool.false_ne_true
        have hBinding : s.roleOf line ≠ .binding := by
          rw [Ne, roleOf_eq_binding_iff, hBindable]
          simp
        rw [List.filter_cons, if_pos hKept, if_pos (by simp [hClosing, hBinding])]
        exact (ih _).cons_cons line
      · rw [List.filter_cons, if_neg hKept]
        split
        · exact (ih _).cons line
        · exact ih _

theorem armed_keptLines_of_filter (h : Armed (ls.filter fun line => !line.closes))
    (s : Surroundings) : Armed (keptLines s (solid ls)) := by
  obtain ⟨opening, group, hPair, hOpens, hGroup⟩ := h
  have hSame : [opening, group].filter (fun line => !line.isEmptyLine && !line.isBindable) =
      [opening, group] := by
    simp [isEmptyLine_eq_false rfl opens_of_trim_eq hOpens,
      isEmptyLine_eq_false rfl namesGroup_of_trim_eq hGroup, isBindable_of_opens hOpens,
      isBindable_of_namesGroup hGroup]
  have hBoth := hPair.filter fun line => !line.isEmptyLine && !line.isBindable
  rw [hSame, List.filter_filter] at hBoth
  refine ⟨opening, group, (hBoth.trans ?_).trans (filter_sublist_keptLines s (solid ls)), hOpens,
    hGroup⟩
  rw [solid, List.filter_filter, List.filter_congr fun line _ => ?_]
  cases line.isEmptyLine <;> cases line.isBindable <;> cases line.closes <;> rfl

/-- A line behind armed lines, none of which closes a block, is among the lines that are bound. -/
theorem boundAmong_of_sublist {above : List Line} {line : Line}
    (hSub : (above ++ [line]).Sublist ls) (hOpen : ∀ other ∈ above, other.closes = false)
    (hArmed : Armed above) :
    BoundAmong line.trim ls := by
  obtain ⟨front, back, hLines, hFront⟩ := append_singleton_sublist_iff.mp hSub
  refine ⟨front, line, back, hLines, rfl, hArmed.mono ?_⟩
  have hSame : above.filter (fun other => !other.closes) = above :=
    List.filter_eq_self.mpr fun other hMem => by simp [hOpen other hMem]
  rw [← hSame]
  exact hFront.filter _

/-- What the first reading binds stands behind a group. -/
theorem boundAmong_of_bound {line : Line} (h : line ∈ boundLines {} t.solidLines) :
    BoundAmong line.trim t.lines := by
  obtain ⟨above, below, hCut, hRole⟩ := mem_boundLines_iff.mp h
  have hSolid : (above ++ [line]).Sublist t.solidLines :=
    append_singleton_sublist_iff.mpr ⟨above, below, hCut, List.Sublist.refl _⟩
  have hKept : (keptLines {} above ++ [line]).Sublist t.lines :=
    (((keptLines_sublist {} above).append_right [line]).trans hSolid).trans List.filter_sublist
  exact boundAmong_of_sublist hKept (fun _ => closes_of_mem_keptLines)
    ((armed_keptLines above).2 (roleOf_eq_binding_iff.mp hRole).2.1)

/-- What a second reading binds stood behind a group before. -/
theorem boundAmong_of_rebound {line : Line}
    (h : line ∈ boundLines {} ((ofText t).preamble.map dropReturn)) :
    BoundAmong line.trim t.lines := by
  obtain ⟨above, below, hCut, hRole⟩ := mem_boundLines_iff.mp h
  obtain ⟨front, back, hPreamble, rfl, hBack⟩ := List.map_eq_append_iff.mp hCut
  obtain ⟨long, rest, rfl, rfl, -⟩ := List.map_eq_cons_iff.mp hBack
  have hOpen : ∀ other ∈ front, other.closes = false := fun other hMem =>
    (regular_ofText t).preamble other (by rw [hPreamble]; exact List.mem_append_left _ hMem)
  have hZones : keptLines {} t.solidLines = front ++ long :: rest := by
    rw [← hPreamble, ofText_eq]
  have hKept : (front ++ [long]).Sublist (keptLines {} t.solidLines) :=
    append_singleton_sublist_iff.mpr ⟨front, rest, hZones, List.Sublist.refl _⟩
  rw [trim_dropReturn]
  refine boundAmong_of_sublist ((hKept.trans (keptLines_sublist _ _)).trans List.filter_sublist)
    hOpen (armed_of_map_dropReturn ?_)
  exact ((roleOf_afterLines_eq_binding_iff (closes_of_mem_map_dropReturn hOpen)).mp hRole).1

/-- A line behind a group is bound by the first reading, or it is kept and bound by the second
one. -/
theorem BoundAmong.exists_bound (hBare : statement.trim = statement)
    (hBindable : statement.isBindable) (h : BoundAmong statement t.lines) :
    (∃ line ∈ boundLines {} t.solidLines, line.trim = statement) ∨
      ∃ line ∈ boundLines {} ((ofText t).preamble.map dropReturn), line.trim = statement := by
  obtain ⟨above, line, below, hLines, hTrim, hArmed⟩ := h
  have hLine : line.isBindable := by
    rwa [isBindable_of_trim_eq (hTrim.trans hBare.symm)]
  have hSolid : t.solidLines = solid above ++ line :: solid below := by
    rw [solidLines, hLines, solid_append,
      solid_cons_of_solid (isEmptyLine_eq_false rfl isBindable_of_trim_eq hLine)]
  by_cases hRole : (afterLines {} (solid above)).roleOf line = .binding
  · exact Or.inl ⟨line, mem_boundLines_iff.mpr ⟨_, _, hSolid, hRole⟩, hTrim⟩
  · have hClosing : (afterLines {} (solid above)).roleOf line ≠ .closing := by
      rw [Ne, roleOf_eq_closing_iff, closes_of_isBindable hLine]
      exact Bool.false_ne_true
    obtain ⟨rest, hPreamble⟩ : ∃ rest,
        (ofText t).preamble = keptLines {} (solid above) ++ line :: rest := by
      rw [ofText_eq, hSolid, keptLines_append, keptLines_cons, if_pos (by simp [hRole, hClosing])]
      exact ⟨_, rfl⟩
    refine Or.inr ⟨dropReturn line, mem_boundLines_iff.mpr ?_, (trim_dropReturn line).trans hTrim⟩
    refine ⟨(keptLines {} (solid above)).map dropReturn, rest.map dropReturn,
      by simp [hPreamble], ?_⟩
    refine (roleOf_afterLines_eq_binding_iff (closes_of_mem_map_dropReturn fun _ =>
      closes_of_mem_keptLines)).mpr ⟨?_, ?_⟩
    · exact armed_map_dropReturn (armed_keptLines_of_filter hArmed {})
    · rwa [isBindable_of_trim_eq (trim_dropReturn line)]

/-- A statement is a binding of the canonical form exactly if it stands behind a group. -/
theorem mem_bindings_canonical_iff (hBare : statement.trim = statement)
    (hBindable : statement.isBindable) :
    statement ∈ (ofText (canonical t)).bindings ↔ BoundAmong statement t.lines := by
  have hCases : statement ∈ (ofText (canonical t)).bindings ↔
      (∃ line ∈ boundLines {} t.solidLines, line.trim = statement) ∨
        ∃ line ∈ boundLines {} ((ofText t).preamble.map dropReturn), line.trim = statement := by
    have hOld : statement ∈ (ofText t).bindings ↔
        ∃ line ∈ boundLines {} t.solidLines, line.trim = statement := by
      rw [ofText_eq, mem_sortLines, List.mem_map]
    rw [← hOld, canonical, ofText_render (regular_ofText t), mem_sortLines, List.mem_append,
      List.mem_map, or_comm]
  rw [hCases]
  constructor
  · rintro (⟨line, hLine, rfl⟩ | ⟨line, hLine, rfl⟩)
    · exact boundAmong_of_bound hLine
    · exact boundAmong_of_rebound hLine
  · exact BoundAmong.exists_bound hBare hBindable

/-- The statement has its line to itself exactly if the brace had nothing but blanks before it. -/
theorem trim_indented_eq_iff (hBare : statement.trim = statement)
    (hEnd : statement.getLast? = some ')') {x : Text} :
    trim (x ++ '\t' :: statement) = statement ↔ ∀ c ∈ x, isBlank c := by
  constructor
  · intro hTrim
    obtain ⟨a, b, hEq, ha, hb⟩ := exists_outer (x ++ '\t' :: statement)
    rw [hTrim] at hEq
    have hNone : b = [] := by
      by_contra hSome
      have hLast := getLast?_indented hEnd x
      rw [hEq, List.getLast?_append_of_ne_nil _ hSome] at hLast
      exact absurd (hb ')' (List.mem_of_getLast? hLast)) (by decide)
    rw [hNone, List.append_nil, List.append_cons] at hEq
    intro c hc
    exact ha c (List.append_cancel_right hEq ▸ List.mem_append_left _ hc)
  · intro hBlank
    rw [trim_blank_append hBlank, trim_tab, hBare]

/-- A statement that is nowhere in the text is a binding of the grown text exactly where it was
put. -/
theorem foundAgain_iff_endsBelowGroup (hWhole : '\n' ∉ statement)
    (hEnd : statement.getLast? = some ')') (hBare : statement.trim = statement)
    (hNoBrace : statement.head? ≠ some '\x7d')
    (hNew : ∀ line ∈ t.lines, line.trim ≠ statement) :
    FoundAgain t statement ↔ EndsBelowGroup t := by
  constructor
  · rintro ⟨grown, hSpliced, front, line, back, hCut, hTrim, hArmed⟩
    obtain ⟨above, x, y, below, hy, hBelow, hLines, hGrown⟩ :=
      exists_lines_spliced hSpliced hWhole hEnd
    rw [hGrown] at hCut
    have hAbove : ∀ other ∈ above, other.trim ≠ statement := fun other hMem =>
      hNew other (by rw [hLines]; exact List.mem_append_left _ hMem)
    have hBehind : ∀ other ∈ ('\x7d' :: y) :: below, trim other ≠ statement := by
      intro other hMem
      rcases List.mem_cons.mp hMem with rfl | hMem
      · have hHead : (trim ('\x7d' :: y)).head? = some '\x7d' := head?_trim rfl (by decide)
        intro hEq
        exact hNoBrace (hEq ▸ hHead)
      · exact hNew other (by
          rw [hLines]
          exact List.mem_append_right _ (List.mem_cons_of_mem _ hMem))
    obtain ⟨rfl, rfl, rfl⟩ := append_cons_inj_of_only hCut hTrim hAbove hBehind
    exact ⟨above, x, y, below, hLines, hy, hBelow, (trim_indented_eq_iff hBare hEnd).mp hTrim,
      hArmed⟩
  · rintro ⟨above, x, y, below, hLines, hy, hBelow, hBlank, hArmed⟩
    obtain ⟨grown, hSpliced, hGrown⟩ := exists_spliced_of_lines hLines hy hBelow hWhole hEnd
    exact ⟨grown, hSpliced, above, _, _, hGrown, (trim_indented_eq_iff hBare hEnd).mpr hBlank,
      hArmed⟩

/-- A second addition of the same binding finds it exactly if the statement stands in the grown
text, closing lines aside, behind a group. If the statement was nowhere in the text before, this is
so exactly if the last closing brace begins its line below a group. -/
theorem addBinding_alreadyPresent_again_iff {new : Text} {names : RouteNames}
    (hNames : names.Admissible) (hApplied : addBinding t names = .ok (.applied new)) :
    (addBinding new names = .ok .alreadyPresent ↔ FoundAgain t names.binding) ∧
      ((∀ line ∈ t.lines, line.trim ≠ names.binding) →
        (addBinding new names = .ok .alreadyPresent ↔ EndsBelowGroup t)) := by
  have hFound : addBinding new names = .ok .alreadyPresent ↔ FoundAgain t names.binding := by
    obtain ⟨-, grown, hSpliced, rfl⟩ := addBinding_eq_applied_iff.mp hApplied
    rw [addBinding_eq_alreadyPresent_iff, binds_eq_true_iff hNames.requested,
      mem_bindings_canonical_iff hNames.requested.trim_binding hNames.isBindable_binding]
    constructor
    · intro hBound
      exact ⟨grown, hSpliced, hBound⟩
    · rintro ⟨other, hOther, hBound⟩
      obtain rfl := Except.ok.inj (hSpliced.symm.trans hOther)
      exact hBound
  refine ⟨hFound, fun hNew => hFound.trans ?_⟩
  exact foundAgain_iff_endsBelowGroup hNames.whole names.getLast?_binding
    hNames.requested.trim_binding hNames.noBrace hNew

/-- In a block with a group the first addition is found by the second one. -/
theorem addBinding_alreadyPresent_again_group :
    (RouteNames.ofRequest { resource := "u".toList } []).Admissible ∧
      ∃ new, addBinding "f \x7b\n\tg.Group(\n  \x7d\n// end\n".toList
          (RouteNames.ofRequest { resource := "u".toList } []) = .ok (.applied new) ∧
        addBinding new (RouteNames.ofRequest { resource := "u".toList } []) =
          .ok .alreadyPresent := by
  have hNames : (RouteNames.ofRequest { resource := "u".toList } []).Admissible :=
    ⟨⟨_, _, rfl⟩, by decide +kernel, by decide +kernel, by decide +kernel⟩
  have hApplied : addBinding "f \x7b\n\tg.Group(\n  \x7d\n// end\n".toList
      (RouteNames.ofRequest { resource := "u".toList } []) =
        .ok (.applied ("f \x7b\n\tg.Group(\n// end\n".toList ++
          "\tuRoutes.Get(\"/u\", controllers.GetU)\n\x7d\n".toList)) := by
    decide +kernel
  have hNew : ∀ line ∈ lines "f \x7b\n\tg.Group(\n  \x7d\n// end\n".toList,
      line.trim ≠ (RouteNames.ofRequest { resource := "u".toList } []).binding := by
    decide +kernel
  have hEnds : EndsBelowGroup "f \x7b\n\tg.Group(\n  \x7d\n// end\n".toList := by
    refine ⟨["f \x7b".toList, "\tg.Group(".toList], "  ".toList, [], ["// end".toList], by decide,
      by decide, by decide, List.all_eq_true.mp (by decide), ?_⟩
    exact ⟨"f \x7b".toList, "\tg.Group(".toList, by decide, by decide, by decide⟩
  exact ⟨hNames, _, hApplied,
    ((addBinding_alreadyPresent_again_iff hNames hApplied).2 hNew).mpr hEnds⟩

/-- The last closing brace of this text ends a block of one line, which takes the statement in. The
second addition does not find it and adds it once more. -/
theorem addBinding_again_applied :
    declaresGroup "func A() \x7b\n\ta := api.Group(\"/a\")\n\x7d\nfunc init() \x7b\x7d\n".toList ∧
      (RouteNames.ofRequest { resource := "u".toList } []).Admissible ∧
      addBinding "func A() \x7b\n\ta := api.Group(\"/a\")\n\x7d\nfunc init() \x7b\x7d\n".toList
          (RouteNames.ofRequest { resource := "u".toList } []) =
        .ok (.applied ("func A() \x7b\n\ta := api.Group(\"/a\")\n".toList ++
          "func init() \x7b\tuRoutes.Get(\"/u\", controllers.GetU)\n\x7d\n\x7d\n".toList)) ∧
      addBinding ("func A() \x7b\n\ta := api.Group(\"/a\")\n".toList ++
          "func init() \x7b\tuRoutes.Get(\"/u\", controllers.GetU)\n\x7d\n\x7d\n".toList)
          (RouteNames.ofRequest { resource := "u".toList } []) ≠ .ok .alreadyPresent := by
  refine ⟨by decide +kernel, ?_, by decide +kernel, by decide +kernel⟩
  exact ⟨⟨_, _, rfl⟩, by decide +kernel, by decide +kernel, by decide +kernel⟩

end Scaffold.RouteFile
