import Mathlib.Data.List.Induction
import Scaffold.Route.RouteFile
import Scaffold.Proofs.Text.Lines

/-! The part that a line plays, read off the line and the lines before it. Opening and closing are
facts about the line alone. Inside a part of the file that no line closes, the two facts that a line
has to know of the lines before it come down to one: some line opened a block and a later one
declared a group. -/

namespace Scaffold

namespace Text

/-- The trimmed line ends with an opening brace. -/
def opens (line : Line) : Bool :=
  line.trim.getLast? == some '\x7b'

/-- The trimmed line starts with a closing brace and does not end with an opening one. -/
def closes (line : Line) : Bool :=
  line.trim.head? == some '\x7d' && !line.opens

/-- The line names a route group and does not open a block. -/
def namesGroup (line : Line) : Bool :=
  line.includes ".Group(".toList && !line.opens

/-- The line is a binding wherever bindings can stand. -/
def isBindable (line : Line) : Bool :=
  line.includes "Routes.".toList && !line.includes ".Group(".toList && !line.opens && !line.closes

/-- Some line opens a block and a later one names a route group. -/
def Armed (ls : List Line) : Prop :=
  ∃ opening group : Line, [opening, group].Sublist ls ∧ opening.opens ∧ group.namesGroup

theorem opens_of_trim_eq {line other : Line} (h : line.trim = other.trim) :
    line.opens = other.opens := by
  rw [opens, opens, h]

theorem closes_of_trim_eq {line other : Line} (h : line.trim = other.trim) :
    line.closes = other.closes := by
  rw [closes, closes, opens_of_trim_eq h, h]

theorem includesGroup_trim (line : Line) :
    line.trim.includes ".Group(".toList = line.includes ".Group(".toList :=
  includes_trim (by decide) (by decide) line

theorem includesRoutes_trim (line : Line) :
    line.trim.includes "Routes.".toList = line.includes "Routes.".toList :=
  includes_trim (by decide) (by decide) line

theorem namesGroup_of_trim_eq {line other : Line} (h : line.trim = other.trim) :
    line.namesGroup = other.namesGroup := by
  rw [namesGroup, namesGroup, opens_of_trim_eq h, ← includesGroup_trim line, h,
    includesGroup_trim]

theorem isBindable_of_trim_eq {line other : Line} (h : line.trim = other.trim) :
    line.isBindable = other.isBindable := by
  rw [isBindable, isBindable, opens_of_trim_eq h, closes_of_trim_eq h,
    ← includesGroup_trim line, ← includesRoutes_trim line, h, includesGroup_trim,
    includesRoutes_trim]

theorem closes_of_opens {line : Line} (h : line.opens) : line.closes = false := by
  simp [closes, h]

theorem opens_of_getLast? {line : Line} {c : Char} (h : line.getLast? = some c)
    (hc : isBlank c = false) : line.opens = (c == '\x7b') := by
  rw [opens, getLast?_trim h hc]
  rfl

theorem closes_of_head? {line : Line} {c : Char} (h : line.head? = some c) (hc : isBlank c = false)
    (hBrace : c ≠ '\x7d') : line.closes = false := by
  rw [closes, head?_trim h hc, beq_eq_false_iff_ne.mpr (by simpa using hBrace), Bool.false_and]

theorem isBindable_iff {line : Line} :
    line.isBindable ↔ line.includes "Routes.".toList ∧ line.includes ".Group(".toList = false ∧
      line.opens = false ∧ line.closes = false := by
  simp only [isBindable, Bool.and_eq_true, Bool.not_eq_true', and_assoc]

theorem closes_of_isBindable {line : Line} (h : line.isBindable) : line.closes = false := by
  obtain ⟨-, -, -, hCloses⟩ := isBindable_iff.mp h
  exact hCloses

theorem isBindable_of_opens {line : Line} (h : line.opens) : line.isBindable = false := by
  simp [isBindable, h]

theorem isBindable_of_namesGroup {line : Line} (h : line.namesGroup) : line.isBindable = false := by
  rw [namesGroup, Bool.and_eq_true] at h
  simp only [isBindable, h.1, Bool.not_true, Bool.and_false, Bool.false_and]

theorem Armed.mono {ls more : List Line} (h : Armed ls) (hSub : ls.Sublist more) : Armed more := by
  obtain ⟨opening, group, hPair, hOpens, hGroup⟩ := h
  exact ⟨opening, group, hPair.trans hSub, hOpens, hGroup⟩

theorem armed_append_singleton_iff {ls : List Line} {line : Line} :
    Armed (ls ++ [line]) ↔ Armed ls ∨ (line.namesGroup ∧ ∃ opening ∈ ls, opening.opens) := by
  constructor
  · rintro ⟨opening, group, hPair, hOpens, hGroup⟩
    obtain ⟨front, back, hCut, hFront, hBack⟩ := List.sublist_append_iff.mp hPair
    rcases List.sublist_singleton.mp hBack with rfl | rfl
    · rw [List.append_nil] at hCut
      exact Or.inl ⟨opening, group, hCut ▸ hFront, hOpens, hGroup⟩
    · have hSplit : front = [opening] ∧ group = line := by
        have hParts : [opening] = front ∧ [group] = [line] := List.append_inj' hCut rfl
        exact ⟨hParts.1.symm, List.singleton_injective hParts.2⟩
      rw [hSplit.1, List.singleton_sublist] at hFront
      exact Or.inr ⟨hSplit.2 ▸ hGroup, opening, hFront, hOpens⟩
  · rintro (h | ⟨hGroup, opening, hMem, hOpens⟩)
    · exact h.mono (List.sublist_append_left _ _)
    · refine ⟨opening, line, ?_, hOpens, hGroup⟩
      exact (List.singleton_sublist.mpr hMem).append (List.Sublist.refl [line])

end Text

namespace Surroundings

open Text

/-- What a line has to know of the lines before it, when these come after a line in `s`. -/
def afterLines (s : Surroundings) (ls : List Line) : Surroundings :=
  ls.foldl (fun s line => s.after (s.roleOf line)) s

/-- The role of a line in terms of what the line itself says. -/
theorem roleOf_eq (s : Surroundings) (line : Line) :
    s.roleOf line =
      if line.opens then .opening
      else if line.closes then .closing
      else if s.inBlock && line.includes ".Group(".toList then .group
      else if s.inBlock && s.grouped && line.includes "Routes.".toList then .binding
      else .plain := by
  rw [roleOf, includesGroup_trim, includesRoutes_trim]
  by_cases hOpens : line.trim.getLast? = some '\x7b'
  · rw [if_pos hOpens, if_pos (by simp [opens, hOpens])]
  · have hNot : line.opens = false := by simp [opens, hOpens]
    rw [if_neg hOpens, hNot, if_neg Bool.false_ne_true]
    by_cases hCloses : line.trim.head? = some '\x7d'
    · have hLine : line.closes = true := by simp [closes, hCloses, hNot]
      rw [if_pos hCloses, hLine, if_pos rfl]
    · have hLine : line.closes = false := by simp [closes, hCloses]
      rw [if_neg hCloses, hLine, if_neg Bool.false_ne_true]

theorem roleOf_eq_closing_iff {s : Surroundings} {line : Line} :
    s.roleOf line = .closing ↔ line.closes := by
  rw [roleOf_eq]
  by_cases hOpens : line.opens
  · simp [hOpens, closes_of_opens hOpens]
  · by_cases hCloses : line.closes
    · simp [hOpens, hCloses]
    · simp only [hOpens, hCloses]
      split_ifs <;> simp_all

/-- A binding stands inside a block and after a group. -/
theorem roleOf_eq_binding_iff {s : Surroundings} {line : Line} :
    s.roleOf line = .binding ↔ s.inBlock ∧ s.grouped ∧ line.isBindable := by
  rw [roleOf_eq, isBindable_iff]
  by_cases hOpens : line.opens
  · simp [hOpens]
  · by_cases hCloses : line.closes
    · simp [hOpens, hCloses]
    · cases s.inBlock <;> cases s.grouped <;> cases line.includes ".Group(".toList <;>
        cases line.includes "Routes.".toList <;> simp [hOpens, hCloses]

@[simp] theorem afterLines_nil (s : Surroundings) : s.afterLines [] = s := rfl

theorem afterLines_append (s : Surroundings) (as bs : List Line) :
    s.afterLines (as ++ bs) = (s.afterLines as).afterLines bs := by
  rw [afterLines, List.foldl_append]
  rfl

theorem afterLines_append_singleton (s : Surroundings) (ls : List Line) (line : Line) :
    s.afterLines (ls ++ [line]) =
      (s.afterLines ls).after ((s.afterLines ls).roleOf line) := by
  rw [afterLines_append]
  rfl

theorem roles_append (s : Surroundings) (as bs : List Line) :
    s.roles (as ++ bs) = s.roles as ++ (s.afterLines as).roles bs := by
  induction as generalizing s with
  | nil => rfl
  | cons line as ih =>
      rw [List.cons_append, roles, roles, ih]
      rfl

/-- Lines that open no block leave the surroundings of the first line as they are. -/
theorem afterLines_of_not_opens {ls : List Line} (h : ∀ line ∈ ls, line.opens = false) :
    afterLines {} ls = {} := by
  induction ls using List.reverseRecOn with
  | nil => rfl
  | append_singleton ls line ih =>
      have hLine : line.opens = false := h line (by simp)
      rw [afterLines_append_singleton, ih fun other hMem => h other (List.mem_append_left _ hMem),
        roleOf_eq, hLine]
      split_ifs <;> simp_all [after]

/-- Where no line closes a block, a block is open if some line opened one. -/
theorem inBlock_afterLines_iff {ls : List Line} (h : ∀ line ∈ ls, line.closes = false) :
    (afterLines {} ls).inBlock ↔ ∃ opening ∈ ls, opening.opens := by
  induction ls using List.reverseRecOn with
  | nil => simp
  | append_singleton ls line ih =>
      have hCloses : line.closes = false := h line (by simp)
      have ih := ih fun other hMem => h other (List.mem_append_left _ hMem)
      have hSome : (∃ opening ∈ ls ++ [line], opening.opens) ↔
          (∃ opening ∈ ls, opening.opens) ∨ line.opens := by
        simp [or_and_right, exists_or]
      rw [afterLines_append_singleton, hSome, ← ih, roleOf_eq, hCloses]
      by_cases hOpens : line.opens
      · simp [hOpens, after]
      · simp only [hOpens]
        split_ifs <;> simp_all [after]

/-- Where no line closes a block, a group is declared if the lines are armed. -/
theorem grouped_afterLines_iff {ls : List Line} (h : ∀ line ∈ ls, line.closes = false) :
    (afterLines {} ls).grouped ↔ Armed ls := by
  induction ls using List.reverseRecOn with
  | nil =>
      constructor
      · intro hGrouped
        cases hGrouped
      · rintro ⟨opening, group, hPair, -⟩
        cases hPair
  | append_singleton ls line ih =>
      have hCloses : line.closes = false := h line (by simp)
      have hBefore : ∀ other ∈ ls, other.closes = false := fun other hMem =>
        h other (List.mem_append_left _ hMem)
      rw [afterLines_append_singleton, armed_append_singleton_iff, ← ih hBefore,
        ← inBlock_afterLines_iff hBefore, roleOf_eq, hCloses]
      unfold namesGroup
      by_cases hOpens : line.opens
      · simp [hOpens, after]
      · cases (afterLines {} ls).inBlock <;> cases hIn : line.includes ".Group(".toList <;>
          simp only [hOpens] <;> split_ifs <;> simp_all [after]

/-- Armed lines without a closing one lead into a block and behind a group. -/
theorem afterLines_of_armed {ls : List Line} (h : ∀ line ∈ ls, line.closes = false)
    (hArmed : Armed ls) : (afterLines {} ls).inBlock ∧ (afterLines {} ls).grouped := by
  refine ⟨(inBlock_afterLines_iff h).mpr ?_, (grouped_afterLines_iff h).mpr hArmed⟩
  obtain ⟨opening, group, hPair, hOpens, -⟩ := hArmed
  exact ⟨opening, hPair.subset (List.mem_cons_self ..), hOpens⟩

/-- Where no line closes a block, bindings can stand as soon as the lines are armed. -/
theorem roleOf_afterLines_eq_binding_iff {ls : List Line}
    (h : ∀ line ∈ ls, line.closes = false) {line : Line} :
    (afterLines {} ls).roleOf line = .binding ↔ Armed ls ∧ line.isBindable := by
  rw [roleOf_eq_binding_iff]
  constructor
  · rintro ⟨-, hGroup, hLine⟩
    exact ⟨(grouped_afterLines_iff h).mp hGroup, hLine⟩
  · rintro ⟨hArmed, hLine⟩
    obtain ⟨hBlock, hGroup⟩ := afterLines_of_armed h hArmed
    exact ⟨hBlock, hGroup, hLine⟩

end Surroundings

end Scaffold
