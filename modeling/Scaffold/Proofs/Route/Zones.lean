import Scaffold.Proofs.Route.Roles

/-! The zones of a list of lines. Lines are sorted out in their order, so the zones of two lists one
after the other are put together from the zones of the parts. What reading a text finds is always
regular: the zones hold whole lines of the right kind, and a file with bindings has an armed
preamble. -/

namespace Scaffold

namespace Text

/-- The lines that are not blank. -/
def solid (ls : List Line) : List Line :=
  ls.filter fun line => !line.isEmptyLine

/-- The lines of the text that are not blank. -/
def solidLines (t : Text) : List Line :=
  solid t.lines

theorem solid_append (as bs : List Line) : solid (as ++ bs) = solid as ++ solid bs :=
  List.filter_append as bs

theorem solid_cons_of_solid {line : Line} (h : line.isEmptyLine = false) (ls : List Line) :
    solid (line :: ls) = line :: solid ls :=
  List.filter_cons_of_pos (by simp [h])

theorem isEmptyLine_of_trim_eq {line other : Line} (h : line.trim = other.trim) :
    line.isEmptyLine = other.isEmptyLine := by
  rw [isEmptyLine, isEmptyLine, h]

/-- A line is not blank if it has a property that is read off the trimmed line and that the empty
line lacks. -/
theorem isEmptyLine_eq_false {p : Line → Bool} (hNil : p [] = false)
    (hTrim : ∀ {line other : Line}, line.trim = other.trim → p line = p other) {line : Line}
    (h : p line) : line.isEmptyLine = false := by
  apply Bool.eq_false_iff.mpr
  intro hEmpty
  have hSame : p line = p [] := hTrim (beq_iff_eq.mp hEmpty)
  rw [hSame, hNil] at h
  cases h

theorem isEmptyLine_of_nonBlank {line : Line} (h : line.NonBlank) : line.isEmptyLine = false :=
  beq_eq_false_iff_ne.mpr (trim_ne_nil_iff.mpr h)

end Text

namespace RouteFile

open Text Surroundings

/-- The preamble lines among the lines. -/
def keptLines (s : Surroundings) (ls : List Line) : List Line :=
  withRole (fun role => role != .closing && role != .binding) (s.roles ls)

/-- The binding lines among the lines. -/
def boundLines (s : Surroundings) (ls : List Line) : List Line :=
  withRole (· == .binding) (s.roles ls)

theorem withRole_append (p : Role → Bool) (as bs : List (Role × Line)) :
    withRole p (as ++ bs) = withRole p as ++ withRole p bs := by
  rw [withRole, List.filter_append, List.map_append]
  rfl

theorem withRole_cons (p : Role → Bool) (role : Role) (line : Line) (rest : List (Role × Line)) :
    withRole p ((role, line) :: rest) =
      if p role then line :: withRole p rest else withRole p rest := by
  cases hp : p role <;> simp [withRole, hp]

theorem keptLines_cons (s : Surroundings) (line : Line) (ls : List Line) :
    keptLines s (line :: ls) =
      if s.roleOf line != .closing && s.roleOf line != .binding then
        line :: keptLines (s.after (s.roleOf line)) ls
      else keptLines (s.after (s.roleOf line)) ls := by
  rw [keptLines, roles, withRole_cons]
  rfl

theorem boundLines_cons (s : Surroundings) (line : Line) (ls : List Line) :
    boundLines s (line :: ls) =
      if s.roleOf line == .binding then line :: boundLines (s.after (s.roleOf line)) ls
      else boundLines (s.after (s.roleOf line)) ls := by
  rw [boundLines, roles, withRole_cons]
  rfl

theorem keptLines_append (s : Surroundings) (as bs : List Line) :
    keptLines s (as ++ bs) = keptLines s as ++ keptLines (s.afterLines as) bs := by
  rw [keptLines, roles_append, withRole_append]
  rfl

theorem boundLines_append (s : Surroundings) (as bs : List Line) :
    boundLines s (as ++ bs) = boundLines s as ++ boundLines (s.afterLines as) bs := by
  rw [boundLines, roles_append, withRole_append]
  rfl

/-- Whether a line closes a block does not depend on the lines before it. -/
theorem withRole_closing (s : Surroundings) (ls : List Line) :
    withRole (· == .closing) (s.roles ls) = ls.filter closes := by
  induction ls generalizing s with
  | nil => rfl
  | cons line ls ih =>
      rw [roles, withRole_cons, ih]
      by_cases hCloses : line.closes
      · rw [roleOf_eq_closing_iff.mpr hCloses, List.filter_cons_of_pos hCloses]
        rfl
      · have hRole : s.roleOf line ≠ .closing := fun h => hCloses (roleOf_eq_closing_iff.mp h)
        rw [List.filter_cons_of_neg hCloses, if_neg (by simpa using hRole)]

theorem ofText_eq (t : Text) :
    ofText t =
      { preamble := keptLines {} t.solidLines
        bindings := sortLines ((boundLines {} t.solidLines).map Text.trim)
        closing := t.solidLines.filter closes } := by
  rw [← withRole_closing {} t.solidLines]
  rfl

theorem keptLines_sublist (s : Surroundings) (ls : List Line) :
    (keptLines s ls).Sublist ls := by
  induction ls generalizing s with
  | nil => exact List.Sublist.refl _
  | cons line ls ih =>
      rw [keptLines_cons]
      split
      · exact (ih _).cons_cons line
      · exact (ih _).cons line

theorem mem_boundLines_iff {s : Surroundings} {ls : List Line} {line : Line} :
    line ∈ boundLines s ls ↔
      ∃ above below, ls = above ++ line :: below ∧
        (s.afterLines above).roleOf line = .binding := by
  constructor
  · intro h
    induction ls generalizing s with
    | nil => cases h
    | cons first ls ih =>
        rw [boundLines_cons] at h
        by_cases hFirst : (s.roleOf first == .binding) = true
        · rw [if_pos hFirst] at h
          rcases List.mem_cons.mp h with rfl | hRest
          · exact ⟨[], ls, rfl, by simpa using hFirst⟩
          · obtain ⟨above, below, rfl, hRole⟩ := ih hRest
            exact ⟨first :: above, below, rfl, hRole⟩
        · rw [if_neg hFirst] at h
          obtain ⟨above, below, rfl, hRole⟩ := ih h
          exact ⟨first :: above, below, rfl, hRole⟩
  · rintro ⟨above, below, rfl, hRole⟩
    rw [boundLines_append]
    refine List.mem_append_right _ ?_
    rw [boundLines_cons, hRole]
    exact List.mem_cons_self ..

theorem isBindable_of_mem_boundLines {s : Surroundings} {ls : List Line} {line : Line}
    (h : line ∈ boundLines s ls) : line ∈ ls ∧ line.isBindable := by
  obtain ⟨above, below, rfl, hRole⟩ := mem_boundLines_iff.mp h
  exact ⟨by simp, (roleOf_eq_binding_iff.mp hRole).2.2⟩

theorem closes_of_mem_keptLines {s : Surroundings} {ls : List Line} {line : Line}
    (h : line ∈ keptLines s ls) : line.closes = false := by
  induction ls generalizing s with
  | nil => cases h
  | cons first ls ih =>
      rw [keptLines_cons] at h
      split at h
      · rename_i hRole
        rcases List.mem_cons.mp h with rfl | hRest
        · apply Bool.eq_false_iff.mpr
          intro hCloses
          rw [roleOf_eq_closing_iff.mpr hCloses] at hRole
          cases hRole
        · exact ih hRest
      · exact ih h

/-- Without a closing or a binding line, all lines are kept. -/
theorem keptLines_eq_self {s : Surroundings} {ls : List Line}
    (hOpen : ∀ line ∈ ls, line.closes = false) (hBound : boundLines s ls = []) :
    keptLines s ls = ls := by
  induction ls generalizing s with
  | nil => rfl
  | cons line ls ih =>
      have hRest : ∀ other ∈ ls, other.closes = false := fun other hMem =>
        hOpen other (List.mem_cons_of_mem _ hMem)
      have hClosing : s.roleOf line ≠ .closing := by
        intro h
        have hLine := hOpen line (List.mem_cons_self ..)
        rw [roleOf_eq_closing_iff.mp h] at hLine
        cases hLine
      have hBinding : s.roleOf line ≠ .binding := by
        intro h
        rw [boundLines_cons, h] at hBound
        cases hBound
      rw [boundLines_cons, if_neg (by simpa using hBinding)] at hBound
      rw [keptLines_cons, if_pos (by simp [hClosing, hBinding])]
      exact congrArg (line :: ·) (ih hRest hBound)

theorem zones_of_closing {s : Surroundings} {ls : List Line} (h : ∀ line ∈ ls, line.closes) :
    keptLines s ls = [] ∧ boundLines s ls = [] := by
  induction ls generalizing s with
  | nil => exact ⟨rfl, rfl⟩
  | cons line ls ih =>
      have hLine : s.roleOf line = .closing :=
        roleOf_eq_closing_iff.mpr (h line (List.mem_cons_self ..))
      have hRest : ∀ other ∈ ls, other.closes := fun other hMem =>
        h other (List.mem_cons_of_mem _ hMem)
      rw [keptLines_cons, boundLines_cons, hLine]
      exact ih hRest

/-- Inside a block and after a group, bindable lines are bindings and none of them is kept. -/
theorem zones_of_bindable {s : Surroundings} {ls : List Line} (hBlock : s.inBlock)
    (hGroup : s.grouped) (h : ∀ line ∈ ls, line.isBindable) :
    keptLines s ls = [] ∧ boundLines s ls = ls := by
  induction ls with
  | nil => exact ⟨rfl, rfl⟩
  | cons line ls ih =>
      have hLine : s.roleOf line = .binding :=
        roleOf_eq_binding_iff.mpr ⟨hBlock, hGroup, h line (List.mem_cons_self ..)⟩
      obtain ⟨hKept, hBound⟩ := ih fun other hMem => h other (List.mem_cons_of_mem _ hMem)
      rw [keptLines_cons, boundLines_cons, hLine]
      exact ⟨hKept, congrArg (line :: ·) hBound⟩

theorem boundLines_eq_nil {s : Surroundings} {ls : List Line}
    (h : ∀ line ∈ ls, line.isBindable = false) : boundLines s ls = [] := by
  apply List.eq_nil_iff_forall_not_mem.mpr
  intro line hLine
  obtain ⟨hMem, hBindable⟩ := isBindable_of_mem_boundLines hLine
  rw [h line hMem] at hBindable
  cases hBindable

/-- The lines that open a block and declare a group stay in the preamble, so a binding in the text
leaves an armed preamble. -/
theorem armed_keptLines (ls : List Line) :
    ((afterLines {} ls).inBlock → ∃ opening ∈ keptLines {} ls, opening.opens) ∧
      ((afterLines {} ls).grouped → Armed (keptLines {} ls)) := by
  induction ls using List.reverseRecOn with
  | nil =>
      constructor
      · intro h
        cases h
      · intro h
        cases h
  | append_singleton ls line ih =>
      obtain ⟨ihBlock, ihGroup⟩ := ih
      have hMore : (keptLines {} ls).Sublist (keptLines {} (ls ++ [line])) := by
        rw [keptLines_append]
        exact List.sublist_append_left _ _
      have hBefore (h : (afterLines {} ls).inBlock) :
          ∃ opening ∈ keptLines {} (ls ++ [line]), opening.opens := by
        obtain ⟨opening, hMem, hOpens⟩ := ihBlock h
        exact ⟨opening, hMore.subset hMem, hOpens⟩
      have hArmed (h : (afterLines {} ls).grouped) : Armed (keptLines {} (ls ++ [line])) :=
        (ihGroup h).mono hMore
      have hLast : keptLines {} (ls ++ [line]) =
          keptLines {} ls ++ keptLines (afterLines {} ls) [line] := keptLines_append _ _ _
      rw [afterLines_append_singleton]
      cases hRole : (afterLines {} ls).roleOf line with
      | opening =>
          refine ⟨fun _ => ?_, hArmed⟩
          have hOpens : line.opens := by
            rw [roleOf_eq] at hRole
            split_ifs at hRole with hOpens
            exact hOpens
          have hKept : keptLines (afterLines {} ls) [line] = [line] := by
            rw [keptLines_cons, hRole]
            rfl
          refine ⟨line, ?_, hOpens⟩
          rw [hLast, hKept]
          exact List.mem_append_right _ (List.mem_singleton_self line)
      | closing => exact ⟨fun h => (Bool.false_ne_true h).elim, hArmed⟩
      | group =>
          have hParts : line.opens = false ∧ (afterLines {} ls).inBlock ∧
              line.includes ".Group(".toList := by
            rw [roleOf_eq] at hRole
            split_ifs at hRole with hOpens hCloses hGroup
            exact ⟨Bool.eq_false_iff.mpr hOpens, Bool.and_eq_true_iff.mp hGroup⟩
          obtain ⟨hOpens, hBlock, hGroup⟩ := hParts
          refine ⟨fun _ => hBefore hBlock, fun _ => ?_⟩
          have hKept : keptLines (afterLines {} ls) [line] = [line] := by
            rw [keptLines_cons, hRole]
            rfl
          rw [hLast, hKept, armed_append_singleton_iff]
          refine Or.inr ⟨?_, ihBlock hBlock⟩
          rw [namesGroup, hGroup, hOpens]
          rfl
      | binding => exact ⟨hBefore, hArmed⟩
      | plain => exact ⟨hBefore, hArmed⟩

/-- The preamble of lines without a closing one has no binding left in it. -/
theorem boundLines_keptLines {ls : List Line} (h : ∀ line ∈ ls, line.closes = false) :
    boundLines {} (keptLines {} ls) = [] := by
  induction ls using List.reverseRecOn with
  | nil => rfl
  | append_singleton ls line ih =>
      have hBefore : ∀ other ∈ ls, other.closes = false := fun other hMem =>
        h other (List.mem_append_left _ hMem)
      rw [keptLines_append, boundLines_append, ih hBefore, List.nil_append]
      by_cases hRole : (afterLines {} ls).roleOf line = .binding
      · have hNone : keptLines (afterLines {} ls) [line] = [] := by
          rw [keptLines_cons, hRole]
          rfl
        rw [hNone]
        rfl
      · rcases List.sublist_singleton.mp (keptLines_sublist (afterLines {} ls) [line]) with
          hNone | hKept
        · rw [hNone]
          rfl
        · -- The kept lines arm no more than all lines do.
          have hStill : (afterLines {} (keptLines {} ls)).roleOf line ≠ .binding := by
            intro hBinding
            obtain ⟨hArmed, hBindable⟩ :=
              (roleOf_afterLines_eq_binding_iff fun _ => closes_of_mem_keptLines).mp hBinding
            exact hRole ((roleOf_afterLines_eq_binding_iff hBefore).mpr
              ⟨hArmed.mono (keptLines_sublist {} ls), hBindable⟩)
          rw [hKept, boundLines_cons, if_neg (by simpa using hStill)]
          rfl

end RouteFile

end Scaffold
