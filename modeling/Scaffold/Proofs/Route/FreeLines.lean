import Scaffold.Proofs.Route.Binding
import Scaffold.Proofs.Route.RoundTrip

/-! What an added binding does to the other lines of a route file. The lines that name no route
survive, but the canonical form moves those that close a block behind all others and takes one
carriage return from the end of each, and the splice takes away what stands before the last closing
brace on its line. A text is left undisturbed if there is nothing to move and nothing to take. -/

namespace Scaffold

namespace Text

/-- The line is not blank and names no route. -/
def isFree (line : Line) : Bool :=
  !line.isEmptyLine && !line.includes "Routes.".toList

/-- The lines of the text that are not blank and name no route, in the order of the text. -/
def freeLines (t : Text) : List Line :=
  t.lines.filter isFree

theorem freeLines_eq_filter_solidLines (t : Text) : t.freeLines = t.solidLines.filter isFree := by
  rw [freeLines, solidLines, solid, List.filter_filter]
  apply List.filter_congr
  intro line _
  rw [isFree]
  cases line.isEmptyLine <;> simp

theorem isFree_dropReturn (line : Line) : (dropReturn line).isFree = line.isFree := by
  rw [isFree, isFree, isEmptyLine_of_trim_eq (trim_dropReturn line),
    includes_dropReturn (by decide) (by decide)]

theorem isFree_eq_false_of_includes {line : Line} (h : line.includes "Routes.".toList) :
    line.isFree = false := by
  rw [isFree, h]
  simp

/-- The number of characters in the lines. -/
def totalLength (ls : List Line) : Nat :=
  ls.flatten.length

theorem totalLength_append (as bs : List Line) :
    totalLength (as ++ bs) = totalLength as + totalLength bs := by
  rw [totalLength, List.flatten_append, List.length_append]
  rfl

theorem totalLength_cons (line : Line) (ls : List Line) :
    totalLength (line :: ls) = line.length + totalLength ls := by
  rw [totalLength, List.flatten_cons, List.length_append]
  rfl

theorem totalLength_perm {ls ms : List Line} (h : ls.Perm ms) : totalLength ls = totalLength ms :=
  h.flatten.length_eq

theorem totalLength_map_dropReturn_le (ls : List Line) :
    totalLength (ls.map dropReturn) ≤ totalLength ls := by
  induction ls with
  | nil => exact Nat.le_refl _
  | cons line ls ih =>
      have hLine := length_dropReturn_le line
      rw [List.map_cons, totalLength_cons, totalLength_cons]
      omega

/-- A carriage return that is taken away is missing in the number of characters. -/
theorem map_dropReturn_eq_self_of_totalLength {ls : List Line}
    (h : totalLength (ls.map dropReturn) = totalLength ls) : ls.map dropReturn = ls := by
  induction ls with
  | nil => rfl
  | cons line ls ih =>
      have hLine := length_dropReturn_le line
      have hRest := totalLength_map_dropReturn_le ls
      rw [List.map_cons, totalLength_cons, totalLength_cons] at h
      have hSame : dropReturn line = line := by
        rcases eq_dropReturn_append line with hEq | hEq
        · exact hEq.symm
        · have hLength := congrArg List.length hEq
          rw [List.length_append, List.length_singleton] at hLength
          omega
      rw [List.map_cons, hSame, ih (by omega)]

end Text

namespace RouteFile

open Text Surroundings

/-- The lines with those that close a block behind all others. -/
def closingLast (ls : List Line) : List Line :=
  ls.filter (fun line => !line.closes) ++ ls.filter closes

/-- What a text has to be like so that an added binding leaves its free lines alone. -/
structure Undisturbed (t : Text) : Prop where
  noReturn : ∀ line ∈ t.freeLines, line.getLast? ≠ some '\r'
  /-- No free line stands behind one that closes a block, unless it closes a block too. -/
  ordered : t.freeLines.Pairwise fun line later => line.closes → later.closes
  /-- The last closing brace begins its line, unless the line names a route behind the brace. -/
  braceFirst : ∀ before after,
    (t.lines.filterMap (Text.cutAtLast '\x7d')).getLast? = some (before, after) →
      before = [] ∨ after.includes "Routes.".toList

theorem closingLast_perm (ls : List Line) : (closingLast ls).Perm ls := by
  have hPerm := List.filter_append_perm closes ls
  exact List.perm_append_comm.trans hPerm

theorem closingLast_eq_self_iff {ls : List Line} :
    closingLast ls = ls ↔ ls.Pairwise fun line later => line.closes → later.closes := by
  induction ls with
  | nil => simp [closingLast]
  | cons line ls ih =>
      rw [List.pairwise_cons, ← ih]
      by_cases hCloses : line.closes
      · have hCut : closingLast (line :: ls) =
            ls.filter (fun line => !line.closes) ++ line :: ls.filter closes := by
          rw [closingLast, List.filter_cons_of_neg (by simp [hCloses]),
            List.filter_cons_of_pos hCloses]
        rw [hCut]
        constructor
        · intro h
          -- The first line of the left side is a closing one, so nothing stands before it.
          cases hFront : ls.filter (fun line => !line.closes) with
          | nil =>
              have hAll : ∀ later ∈ ls, later.closes := by simpa using hFront
              refine ⟨fun later hLater _ => hAll later hLater, ?_⟩
              rw [closingLast, hFront, List.nil_append, List.filter_eq_self.mpr hAll]
          | cons first front =>
              rw [hFront, List.cons_append] at h
              have hFirst : first ∈ ls.filter (fun line => !line.closes) := by simp [hFront]
              rw [(List.cons.inj h).1] at hFirst
              simp [hCloses] at hFirst
        · rintro ⟨hAll, -⟩
          have hLater : ∀ later ∈ ls, later.closes := fun later hMem => hAll later hMem hCloses
          have hFront : ls.filter (fun line => !line.closes) = [] :=
            List.filter_eq_nil_iff.mpr fun later hMem => by simp [hLater later hMem]
          rw [hFront, List.filter_eq_self.mpr hLater, List.nil_append]
      · have hCut : closingLast (line :: ls) = line :: closingLast ls := by
          rw [closingLast, List.filter_cons_of_pos (by simp [hCloses]),
            List.filter_cons_of_neg hCloses]
          rfl
        rw [hCut]
        simp [hCloses]

/-- Bindings are not free, so the free lines of the preamble are all free lines but the closing
ones. -/
theorem filter_isFree_keptLines (s : Surroundings) (ls : List Line) :
    (keptLines s ls).filter isFree = (ls.filter isFree).filter (fun line => !line.closes) := by
  induction ls generalizing s with
  | nil => rfl
  | cons line ls ih =>
      rw [keptLines_cons]
      by_cases hCloses : line.closes
      · have hRole : s.roleOf line = .closing := roleOf_eq_closing_iff.mpr hCloses
        rw [hRole, if_neg (by decide), ih]
        by_cases hFree : line.isFree
        · rw [List.filter_cons_of_pos hFree, List.filter_cons_of_neg (by simp [hCloses])]
        · rw [List.filter_cons_of_neg hFree]
      · have hClosing : s.roleOf line ≠ .closing := fun h =>
          hCloses (roleOf_eq_closing_iff.mp h)
        by_cases hBinding : s.roleOf line = .binding
        · have hFree : line.isFree = false := by
            obtain ⟨-, -, hBindable⟩ := roleOf_eq_binding_iff.mp hBinding
            exact isFree_eq_false_of_includes (isBindable_iff.mp hBindable).1
          rw [hBinding, if_neg (by decide), ih, List.filter_cons_of_neg (by simp [hFree])]
        · rw [if_pos (by simp [hClosing, hBinding])]
          by_cases hFree : line.isFree
          · rw [List.filter_cons_of_pos hFree, List.filter_cons_of_pos hFree,
              List.filter_cons_of_pos (by simp [hCloses]), ih]
          · rw [List.filter_cons_of_neg hFree, List.filter_cons_of_neg hFree, ih]

/-- The canonical form keeps the free lines, with the closing ones behind the others. -/
theorem freeLines_canonical (t : Text) :
    (canonical t).freeLines = (closingLast t.freeLines).map dropReturn := by
  have hBindings : ((ofText t).bindings.map ('\t' :: ·)).filter isFree = [] := by
    apply List.filter_eq_nil_iff.mpr
    intro line hLine
    have hBindable := (regular_ofText t).isBindable_of_mem_written hLine
    simp [isFree_eq_false_of_includes (isBindable_iff.mp hBindable).1]
  have hReturn (ls : List Line) :
      (ls.map dropReturn).filter isFree = (ls.filter isFree).map dropReturn := by
    rw [List.filter_map]
    congr 1
    exact List.filter_congr fun line _ => isFree_dropReturn line
  have hPreamble : (ofText t).preamble.filter isFree =
      t.freeLines.filter (fun line => !line.closes) := by
    rw [ofText_eq, freeLines_eq_filter_solidLines]
    exact filter_isFree_keptLines {} t.solidLines
  have hClosing : (ofText t).closing.filter isFree = t.freeLines.filter closes := by
    rw [ofText_eq, freeLines_eq_filter_solidLines, List.filter_filter, List.filter_filter]
    exact List.filter_congr fun line _ => Bool.and_comm _ _
  rw [freeLines_eq_filter_solidLines, canonical, solidLines_render (regular_ofText t),
    List.filter_append, List.filter_append, hBindings, hReturn, hReturn, hPreamble, hClosing,
    List.append_nil, ← List.map_append]
  rfl

/-- Nothing is moved and nothing is taken from lines that come back as they are. -/
theorem map_dropReturn_closingLast_eq_self_iff {ls : List Line} :
    (closingLast ls).map dropReturn = ls ↔
      (∀ line ∈ ls, line.getLast? ≠ some '\r') ∧
        ls.Pairwise fun line later => line.closes → later.closes := by
  constructor
  · intro h
    have hSame : (closingLast ls).map dropReturn = closingLast ls := by
      refine map_dropReturn_eq_self_of_totalLength ?_
      rw [h, totalLength_perm (closingLast_perm ls)]
    have hOrder : closingLast ls = ls := hSame.symm.trans h
    rw [hOrder] at hSame
    exact ⟨map_dropReturn_eq_self_iff.mp hSame, closingLast_eq_self_iff.mp hOrder⟩
  · rintro ⟨hReturn, hOrder⟩
    rw [closingLast_eq_self_iff.mpr hOrder, map_dropReturn_eq_self_iff.mpr hReturn]

/-- The last brace of the text is the last brace of the last line that has one. -/
theorem getLast?_filterMap_cutAtLast {below : List Line} {y : Text} (hy : '\x7d' ∉ y)
    (hBelow : ∀ line ∈ below, '\x7d' ∉ line) (above : List Line) (x : Text) :
    ((above ++ (x ++ '\x7d' :: y) :: below).filterMap (Text.cutAtLast '\x7d')).getLast? =
      some (x, '\x7d' :: y) := by
  have hNone : below.filterMap (Text.cutAtLast '\x7d') = [] :=
    List.filterMap_eq_nil_iff.mpr fun line hLine => cutAtLast_eq_none_iff.mpr (hBelow line hLine)
  rw [List.filterMap_append, List.filterMap_cons, cutAtLast_append_cons hy, hNone]
  exact List.getLast?_concat

/-- The two halves of a line that is cut at a brace name a route exactly if the line does. -/
theorem includesRoutes_append_brace (x y : Text) :
    (x ++ '\x7d' :: y).includes "Routes.".toList =
      (x.includes "Routes.".toList || y.includes "Routes.".toList) :=
  includes_append_cons (by decide) (by decide)

theorem isFree_append_brace (x y : Text) :
    isFree (x ++ '\x7d' :: y) =
      (!x.includes "Routes.".toList && !y.includes "Routes.".toList) := by
  have hSolid : isEmptyLine (x ++ '\x7d' :: y) = false :=
    isEmptyLine_of_nonBlank ⟨'\x7d', by simp, by decide⟩
  rw [isFree, hSolid, includesRoutes_append_brace]
  simp

theorem isFree_brace (y : Text) : isFree ('\x7d' :: y) = !y.includes "Routes.".toList := by
  have hCut := isFree_append_brace [] y
  rw [List.nil_append] at hCut
  rw [hCut]
  rfl

/-- What stands before the brace on its line is missed afterwards, unless the whole line names a
route. -/
theorem brace_of_closingLast_eq {above below : List Line} {x y : Text}
    (h : (closingLast (above ++ (['\x7d' :: y].filter isFree ++ below))).map dropReturn =
      above ++ ([x ++ '\x7d' :: y].filter isFree ++ below)) :
    x = [] ∨ y.includes "Routes.".toList := by
  by_contra hNot
  rw [not_or, Bool.not_eq_true] at hNot
  obtain ⟨hx, hy⟩ := hNot
  have hFree : isFree ('\x7d' :: y) = true := by
    rw [isFree_brace, hy]
    rfl
  have hBehind : ['\x7d' :: y].filter isFree = ['\x7d' :: y] := by
    simp [hFree]
  rw [hBehind] at h
  have hPerm := closingLast_perm (above ++ (['\x7d' :: y] ++ below))
  cases hFront : x.includes "Routes.".toList with
  | true =>
      have hNone : isFree (x ++ '\x7d' :: y) = false := by
        rw [isFree_append_brace, hFront]
        rfl
      have hLine : [x ++ '\x7d' :: y].filter isFree = [] := by
        simp [hNone]
      have hLength := congrArg List.length h
      rw [hLine, List.length_map, hPerm.length_eq] at hLength
      simp only [List.length_append, List.length_singleton, List.length_nil] at hLength
      omega
  | false =>
      have hWhole : isFree (x ++ '\x7d' :: y) = true := by
        rw [isFree_append_brace, hFront, hy]
        rfl
      have hLine : [x ++ '\x7d' :: y].filter isFree = [x ++ '\x7d' :: y] := by
        simp [hWhole]
      have hLength := congrArg totalLength h
      have hLess := totalLength_map_dropReturn_le (closingLast (above ++ (['\x7d' :: y] ++ below)))
      have hSome : 0 < x.length := List.length_pos_iff.mpr hx
      rw [hLine] at hLength
      rw [hLength, totalLength_perm hPerm] at hLess
      simp only [totalLength_append, totalLength_cons, List.length_append, List.length_cons]
        at hLess
      omega

theorem filter_isFree_brace {x y : Text} (h : x = [] ∨ y.includes "Routes.".toList) :
    ['\x7d' :: y].filter isFree = [x ++ '\x7d' :: y].filter isFree := by
  rcases h with rfl | h
  · rfl
  · have hBehind : isFree ('\x7d' :: y) = false := by
      rw [isFree_brace, h]
      rfl
    have hWhole : isFree (x ++ '\x7d' :: y) = false := by
      rw [isFree_append_brace, h]
      simp
    simp [hBehind, hWhole]

/-- An added binding leaves the free lines of the text as they are, in their order, exactly if the
text is undisturbed. What is added does not matter. -/
theorem freeLines_addBinding_eq_iff {t new : Text} {names : RouteNames}
    (hNames : names.Requested) (hWhole : '\n' ∉ names.binding)
    (h : addBinding t names = .ok (.applied new)) :
    new.freeLines = t.freeLines ↔ Undisturbed t := by
  obtain ⟨-, grown, hSpliced, rfl⟩ := addBinding_eq_applied_iff.mp h
  obtain ⟨above, x, y, below, hy, hBelow, hOld, hNew⟩ :=
    exists_lines_spliced hSpliced hWhole names.getLast?_binding
  have hStatement : isFree (x ++ '\t' :: names.binding) = false := by
    refine isFree_eq_false_of_includes (includes_iff.mpr ?_)
    exact (includes_iff.mp hNames.includes_binding).trans
      ((List.suffix_cons _ _).trans (List.suffix_append _ _)).isInfix
  have hText : t.freeLines =
      above.filter isFree ++ ([x ++ '\x7d' :: y].filter isFree ++ below.filter isFree) := by
    rw [freeLines, hOld, ← List.filter_append, ← List.filter_append]
    rfl
  have hGrown : grown.freeLines =
      above.filter isFree ++ (['\x7d' :: y].filter isFree ++ below.filter isFree) := by
    rw [freeLines, hNew, List.filter_append, List.filter_cons_of_neg (by simp [hStatement]),
      ← List.filter_append, ← List.filter_append, ← List.filter_append]
    rfl
  have hLast := getLast?_filterMap_cutAtLast hy hBelow above x
  rw [← hOld] at hLast
  have hBehind : includes ('\x7d' :: y) "Routes.".toList = y.includes "Routes.".toList :=
    includesRoutes_append_brace [] y
  rw [freeLines_canonical, hGrown, hText]
  constructor
  · intro hSame
    have hBrace := brace_of_closingLast_eq hSame
    rw [filter_isFree_brace hBrace, ← hText, map_dropReturn_closingLast_eq_self_iff] at hSame
    refine ⟨hSame.1, hSame.2, fun before after hCut => ?_⟩
    rw [hLast] at hCut
    obtain ⟨rfl, rfl⟩ := Prod.mk.inj (Option.some.inj hCut)
    rw [hBehind]
    exact hBrace
  · rintro ⟨hReturn, hOrder, hFirst⟩
    have hBrace := hFirst _ _ hLast
    rw [hBehind] at hBrace
    rw [filter_isFree_brace hBrace, ← hText, map_dropReturn_closingLast_eq_self_iff]
    exact ⟨hReturn, hOrder⟩

/-- A file with one block is undisturbed, so it keeps its two lines around a new binding. -/
theorem freeLines_addBinding_one_block :
    (RouteNames.ofRequest { resource := "u".toList } []).Requested ∧
      '\n' ∉ (RouteNames.ofRequest { resource := "u".toList } []).binding ∧
      ∃ new, addBinding "f \x7b\n\x7d\n".toList
          (RouteNames.ofRequest { resource := "u".toList } []) = .ok (.applied new) ∧
        Undisturbed "f \x7b\n\x7d\n".toList ∧
        new.freeLines = freeLines "f \x7b\n\x7d\n".toList := by
  have hNames : (RouteNames.ofRequest { resource := "u".toList } []).Requested := ⟨_, _, rfl⟩
  have hWhole : '\n' ∉ (RouteNames.ofRequest { resource := "u".toList } []).binding := by
    decide +kernel
  have hApplied : addBinding "f \x7b\n\x7d\n".toList
      (RouteNames.ofRequest { resource := "u".toList } []) =
        .ok (.applied "f \x7b\n\tuRoutes.Get(\"/u\", controllers.GetU)\n\x7d\n".toList) := by
    decide +kernel
  have hUndisturbed : Undisturbed "f \x7b\n\x7d\n".toList := by
    refine ⟨by decide, by decide, fun before after hCut => Or.inl ?_⟩
    have hLast : ((lines "f \x7b\n\x7d\n".toList).filterMap
        (Text.cutAtLast '\x7d')).getLast? = some ([], "\x7d".toList) := by decide
    rw [hLast] at hCut
    exact (Prod.mk.inj (Option.some.inj hCut)).1.symm
  exact ⟨hNames, hWhole, _, hApplied, hUndisturbed,
    (freeLines_addBinding_eq_iff hNames hWhole hApplied).mpr hUndisturbed⟩

/-- In a file with two functions the end of the first one is moved behind the start of the second
one. -/
theorem freeLines_addBinding_ne :
    addBinding "func A() \x7b\n\x7d\nfunc B() \x7b\n\x7d\n".toList
        (RouteNames.ofRequest { resource := "u".toList } []) =
      .ok (.applied ("func A() \x7b\nfunc B() \x7b\n".toList ++
        "\tuRoutes.Get(\"/u\", controllers.GetU)\n\x7d\n\x7d\n".toList)) ∧
    freeLines ("func A() \x7b\nfunc B() \x7b\n".toList ++
        "\tuRoutes.Get(\"/u\", controllers.GetU)\n\x7d\n\x7d\n".toList) ≠
      freeLines "func A() \x7b\n\x7d\nfunc B() \x7b\n\x7d\n".toList := by
  decide +kernel

end RouteFile

end Scaffold
