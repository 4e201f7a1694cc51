import Mathlib.Data.List.Infix
import Scaffold.Proofs.Route.RoundTrip

/-! The zone of a line told from the lines before it, without going through them one after the other.
Whether a block is open depends on the nearest line that opens or closes one, and a group stays
declared once some line declared it inside a block. Each line that is not blank has one zone, so the
canonical form has the same lines as the text, in another order and with other blanks around them. -/

namespace Scaffold

namespace Text

/-- Each of the lines with the lines before it. -/
def placed (ls : List Line) : List (List Line × Line) :=
  ls.inits.zip ls

/-- Of the lines that open or close a block the last one opens it. -/
def endInBlock (ls : List Line) : Bool :=
  (ls.reverse.find? fun line => line.opens || line.closes).any opens

/-- The line declares a group if the lines `above` stand before it. -/
def groupsBehind (above : List Line) (line : Line) : Bool :=
  !line.opens && !line.closes && line.trim.includes ".Group(".toList && endInBlock above

/-- Some line declares a group. -/
def hasGroup (ls : List Line) : Bool :=
  (placed ls).any fun (above, line) => groupsBehind above line

/-- The line is a binding if the lines `above` stand before it. -/
def bindsBehind (above : List Line) (line : Line) : Bool :=
  !line.opens && !line.closes && !line.trim.includes ".Group(".toList &&
    line.trim.includes "Routes.".toList && endInBlock above && hasGroup above

theorem placed_cons (line : Line) (ls : List Line) :
    placed (line :: ls) = ([], line) :: (placed ls).map (Prod.map (line :: ·) id) := by
  rw [placed, List.inits_cons, List.zip_cons_cons, List.zip_map_left]
  rfl

theorem placed_append_singleton (ls : List Line) (line : Line) :
    placed (ls ++ [line]) = placed ls ++ [(ls, line)] := by
  induction ls with
  | nil => rfl
  | cons first ls ih =>
      rw [List.cons_append, placed_cons, placed_cons, ih, List.map_append]
      rfl

theorem endInBlock_append_singleton (ls : List Line) (line : Line) :
    endInBlock (ls ++ [line]) =
      if line.opens then true else if line.closes then false else endInBlock ls := by
  rw [endInBlock, List.reverse_append, List.reverse_singleton, List.singleton_append,
    List.find?_cons]
  cases hOpens : line.opens <;> cases hCloses : line.closes <;> simp [hOpens, endInBlock]

theorem hasGroup_append_singleton (ls : List Line) (line : Line) :
    hasGroup (ls ++ [line]) = (hasGroup ls || groupsBehind ls line) := by
  rw [hasGroup, placed_append_singleton, List.any_append, List.any_cons, List.any_nil,
    Bool.or_false]
  rfl

theorem bindsBehind_iff {above : List Line} {line : Line} :
    bindsBehind above line ↔ endInBlock above ∧ hasGroup above ∧ line.isBindable := by
  rw [bindsBehind, includesGroup_trim, includesRoutes_trim, isBindable]
  simp only [Bool.and_eq_true]
  tauto

end Text

namespace Surroundings

open Text

theorem inBlock_after_roleOf (s : Surroundings) (line : Line) :
    (s.after (s.roleOf line)).inBlock =
      if line.opens then true else if line.closes then false else s.inBlock := by
  rw [roleOf_eq]
  split_ifs <;> rfl

theorem grouped_after_roleOf (s : Surroundings) (line : Line) :
    (s.after (s.roleOf line)).grouped =
      (s.grouped ||
        (!line.opens && !line.closes && line.includes ".Group(".toList && s.inBlock)) := by
  obtain ⟨inBlock, grouped⟩ := s
  rw [roleOf_eq]
  cases line.opens <;> cases line.closes <;> cases line.includes ".Group(".toList <;>
    cases line.includes "Routes.".toList <;> cases inBlock <;> cases grouped <;> rfl

/-- Whether a block is open depends on the nearest line that opens or closes one. -/
theorem inBlock_afterLines (ls : List Line) : (afterLines {} ls).inBlock = endInBlock ls := by
  induction ls using List.reverseRecOn with
  | nil => rfl
  | append_singleton ls line ih =>
      rw [afterLines_append_singleton, inBlock_after_roleOf, endInBlock_append_singleton, ih]

theorem grouped_afterLines (ls : List Line) : (afterLines {} ls).grouped = hasGroup ls := by
  induction ls using List.reverseRecOn with
  | nil => rfl
  | append_singleton ls line ih =>
      rw [afterLines_append_singleton, grouped_after_roleOf, hasGroup_append_singleton, ih,
        groupsBehind, includesGroup_trim, inBlock_afterLines]

/-- The role of a binding told from the lines before it. -/
theorem roleOf_afterLines_eq_binding {ls : List Line} {line : Line} :
    (afterLines {} ls).roleOf line = .binding ↔ bindsBehind ls line := by
  rw [roleOf_eq_binding_iff, bindsBehind_iff, inBlock_afterLines, grouped_afterLines]

end Surroundings

namespace RouteFile

open Text Surroundings

/-- The zones that belong to lines of which none is blank. -/
structure Classified (ls : List Line) (f : RouteFile) : Prop where
  closing : f.closing = ls.filter closes
  bindings : f.bindings.Perm
    (((placed ls).filter fun (above, line) => bindsBehind above line).map fun (_, line) => line.trim)
  sorted : f.bindings.Pairwise fun line later => bytes line ≤ bytes later
  /-- What neither closes a block nor is a binding is kept as it is. -/
  preamble : f.preamble =
    ((placed ls).filter fun (above, line) => !line.closes && !bindsBehind above line).map Prod.snd

theorem boundLines_singleton (s : Surroundings) (line : Line) :
    boundLines s [line] = if s.roleOf line = .binding then [line] else [] := by
  rw [boundLines_cons]
  cases s.roleOf line <;> rfl

theorem keptLines_singleton (s : Surroundings) (line : Line) :
    keptLines s [line] =
      if s.roleOf line = .closing ∨ s.roleOf line = .binding then [] else [line] := by
  rw [keptLines_cons]
  cases s.roleOf line <;> rfl

theorem boundLines_eq_filter_placed (ls : List Line) :
    boundLines {} ls =
      ((placed ls).filter fun (above, line) => bindsBehind above line).map Prod.snd := by
  induction ls using List.reverseRecOn with
  | nil => rfl
  | append_singleton ls line ih =>
      rw [boundLines_append, boundLines_singleton, placed_append_singleton, List.filter_append,
        List.map_append, ← ih]
      by_cases hBinds : bindsBehind ls line
      · rw [if_pos (roleOf_afterLines_eq_binding.mpr hBinds)]
        simp [hBinds]
      · rw [if_neg (mt roleOf_afterLines_eq_binding.mp hBinds)]
        simp [hBinds]

theorem keptLines_eq_filter_placed (ls : List Line) :
    keptLines {} ls =
      ((placed ls).filter fun (above, line) => !line.closes && !bindsBehind above line).map
        Prod.snd := by
  induction ls using List.reverseRecOn with
  | nil => rfl
  | append_singleton ls line ih =>
      rw [keptLines_append, keptLines_singleton, placed_append_singleton, List.filter_append,
        List.map_append, ← ih]
      simp only [roleOf_eq_closing_iff, roleOf_afterLines_eq_binding]
      cases hCloses : line.closes <;> cases hBinds : bindsBehind ls line <;>
        simp [hCloses, hBinds]

/-- Every line is kept, bound or closing, and it is one of them only. -/
theorem zones_perm (s : Surroundings) (ls : List Line) :
    (keptLines s ls ++ boundLines s ls ++ ls.filter closes).Perm ls := by
  induction ls generalizing s with
  | nil => exact .refl _
  | cons line ls ih =>
      have ih := ih (s.after (s.roleOf line))
      rw [keptLines_cons, boundLines_cons]
      by_cases hCloses : line.closes
      · have hRole : s.roleOf line = .closing := roleOf_eq_closing_iff.mpr hCloses
        rw [hRole] at ih
        rw [hRole, List.filter_cons_of_pos hCloses]
        exact List.perm_middle.trans (ih.cons line)
      · rw [List.filter_cons_of_neg hCloses]
        have hRole : s.roleOf line ≠ .closing := mt roleOf_eq_closing_iff.mp hCloses
        by_cases hBinds : s.roleOf line = .binding
        · rw [hBinds, List.append_assoc] at ih
          rw [hBinds, if_neg (by decide), if_pos (by decide), List.append_assoc, List.cons_append]
          exact List.perm_middle.trans (ih.cons line)
        · rw [if_pos (by simp [hRole, hBinds]), if_neg (by simp [hBinds])]
          exact ih.cons line

/-- The canonical form has the lines of the text, in another order and with other blanks around
them. -/
theorem solidLines_canonical_perm (t : Text) :
    ((canonical t).solidLines.map Text.trim).Perm (t.solidLines.map Text.trim) := by
  have hReturn (ls : List Line) : (ls.map dropReturn).map Text.trim = ls.map Text.trim := by
    rw [List.map_map]
    exact List.map_congr_left fun line _ => trim_dropReturn line
  have hTab (ls : List Line) : (ls.map ('\t' :: ·)).map Text.trim = ls.map Text.trim := by
    rw [List.map_map]
    exact List.map_congr_left fun line _ => trim_tab line
  have hBindings : ((ofText t).bindings.map Text.trim).Perm
      ((boundLines {} t.solidLines).map Text.trim) := by
    rw [ofText_eq]
    refine ((sortLines_perm _).map Text.trim).trans ?_
    rw [List.map_map]
    exact .of_eq (List.map_congr_left fun line _ => trim_trim line)
  rw [canonical, solidLines_render (regular_ofText t), List.map_append, List.map_append, hReturn,
    hReturn, hTab]
  refine ((hBindings.append_left _).append_right _).trans ?_
  rw [ofText_eq, ← List.map_append, ← List.map_append]
  exact (zones_perm {} t.solidLines).map Text.trim

/-- Reading a text sorts its lines out by what each line and the lines before it say, and no line
is lost, doubled or made up in the canonical form. -/
theorem classified_ofText (t : Text) :
    Classified t.solidLines (ofText t) ∧
      ((canonical t).solidLines.map Text.trim).Perm (t.solidLines.map Text.trim) := by
  refine ⟨?_, solidLines_canonical_perm t⟩
  rw [ofText_eq]
  refine
    { closing := rfl
      bindings := ?_
      sorted := sortLines_pairwise_bytes _
      preamble := keptLines_eq_filter_placed _ }
  refine (sortLines_perm _).trans ?_
  rw [boundLines_eq_filter_placed, List.map_map]
  exact .refl _

end RouteFile

end Scaffold
