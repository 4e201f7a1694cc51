import Mathlib.Logic.Function.Iterate
import Scaffold.Proofs.Route.RoundTrip

/-! Canonical forms of canonical forms. The first pass moves the closing lines to the end, so the second
one can find bindings that the first one had to leave in the preamble. It leaves none there. From then on
a pass changes nothing but one carriage return at the end of each line, and the passes come to rest as
soon as these are used up. -/

namespace Scaffold

namespace Text

/-- The number of carriage returns at the end of the line. -/
def returns (line : Line) : Nat :=
  (line.reverse.takeWhile (· == '\r')).length

/-- The largest number of carriage returns at the end of a line of the text. -/
def maxReturns (t : Text) : Nat :=
  (t.lines.map returns).foldr max 0

theorem returns_append_return (line : Line) : returns (line ++ ['\r']) = returns line + 1 := by
  simp [returns]

theorem returns_eq_zero_iff {line : Line} : line.returns = 0 ↔ line.getLast? ≠ some '\r' := by
  rw [returns, List.length_eq_zero_iff, ← List.head?_reverse]
  cases line.reverse with
  | nil => simp
  | cons c rest => simp [List.takeWhile_cons]

theorem returns_dropReturn (line : Line) : (dropReturn line).returns = line.returns - 1 := by
  by_cases hLast : line.getLast? = some '\r'
  · obtain ⟨front, rfl⟩ := List.getLast?_eq_some_iff.mp hLast
    rw [dropReturn, if_pos hLast, List.dropLast_concat, returns_append_return, Nat.add_sub_cancel]
  · rw [dropReturn_of_getLast? hLast, returns_eq_zero_iff.mpr hLast]

theorem returns_le_maxReturns {t : Text} {line : Line} (h : line ∈ t.lines) :
    line.returns ≤ t.maxReturns := by
  rw [maxReturns]
  generalize t.lines = ls at h ⊢
  induction ls with
  | nil => cases h
  | cons first ls ih =>
      rw [List.map_cons, List.foldr_cons]
      rcases List.mem_cons.mp h with rfl | hRest
      · exact Nat.le_max_left ..
      · exact (ih hRest).trans (Nat.le_max_right ..)

theorem maxReturns_eq_zero {t : Text} (h : ∀ line ∈ t.lines, line.getLast? ≠ some '\r') :
    t.maxReturns = 0 := by
  rw [maxReturns]
  generalize t.lines = ls at h ⊢
  induction ls with
  | nil => rfl
  | cons line ls ih =>
      obtain ⟨hLine, hRest⟩ := List.forall_mem_cons.mp h
      rw [List.map_cons, List.foldr_cons, returns_eq_zero_iff.mpr hLine, ih hRest]
      rfl

end Text

namespace RouteFile

open Text Surroundings

variable {f : RouteFile} {t : Text} {n : Nat}

/-- No line that is written as it is ends with more than `n` carriage returns. -/
def ReturnsWithin (f : RouteFile) (n : Nat) : Prop :=
  ∀ line ∈ f.preamble ++ f.closing, line.returns ≤ n

theorem Regular.faithful (h : Regular f) (hReturns : f.ReturnsWithin 0)
    (hBound : boundLines {} f.preamble = []) : Faithful f where
  toRegular := h
  noReturn line hMem := returns_eq_zero_iff.mp (Nat.le_zero.mp (hReturns line hMem))
  settled := (boundLines_eq_nil_iff h.preamble).mp hBound

/-- A second reading takes one carriage return from each line. -/
theorem Regular.returnsWithin_ofText_render (h : Regular f) (hReturns : f.ReturnsWithin n) :
    (ofText (render f)).ReturnsWithin (n - 1) := by
  have hShort {ls : List Line} (hOld : ∀ line ∈ ls, line.returns ≤ n) :
      ∀ line ∈ ls.map dropReturn, line.returns ≤ n - 1 := by
    intro line hMem
    obtain ⟨long, hLong, rfl⟩ := List.mem_map.mp hMem
    rw [returns_dropReturn]
    exact Nat.sub_le_sub_right (hOld long hLong) 1
  intro line hMem
  rw [RouteFile.ofText_render h, List.mem_append] at hMem
  rcases hMem with hPreamble | hClosing
  · exact hShort (fun long hLong => hReturns long (List.mem_append_left _ hLong)) line
      ((keptLines_sublist _ _).subset hPreamble)
  · exact hShort (fun long hLong => hReturns long (List.mem_append_right _ hLong)) line hClosing

/-- A second reading leaves no binding in the preamble for a third one. -/
theorem Regular.boundLines_ofText_render (h : Regular f) :
    boundLines {} (ofText (render f)).preamble = [] := by
  rw [RouteFile.ofText_render h]
  exact boundLines_keptLines (closes_of_mem_map_dropReturn h.preamble)

theorem returnsWithin_ofText (t : Text) : (ofText t).ReturnsWithin t.maxReturns := by
  intro line hMem
  have hLine : line ∈ t.solidLines := by
    rw [ofText_eq, List.mem_append] at hMem
    rcases hMem with hPreamble | hClosing
    · exact (keptLines_sublist _ _).subset hPreamble
    · exact List.mem_of_mem_filter hClosing
  exact returns_le_maxReturns (List.mem_of_mem_filter hLine)

theorem canonical_iterate_succ (t : Text) (n : Nat) :
    canonical^[n + 1] t = render (ofText (canonical^[n] t)) :=
  Function.iterate_succ_apply' canonical n t

theorem returnsWithin_iterate (t : Text) (n : Nat) :
    (ofText (canonical^[n] t)).ReturnsWithin (t.maxReturns - n) := by
  induction n with
  | zero => exact returnsWithin_ofText t
  | succ n ih =>
      rw [canonical_iterate_succ, Nat.sub_add_eq]
      exact (regular_ofText _).returnsWithin_ofText_render ih

/-- Zones are faithful after one pass or more, once all carriage returns are used up. -/
theorem faithful_iterate (hPasses : 1 ≤ n) (hReturns : t.maxReturns ≤ n) :
    Faithful (ofText (canonical^[n] t)) := by
  have hWithin := returnsWithin_iterate t n
  rw [Nat.sub_eq_zero_of_le hReturns] at hWithin
  refine (regular_ofText _).faithful hWithin ?_
  obtain ⟨before, rfl⟩ := Nat.exists_eq_add_of_le' hPasses
  rw [canonical_iterate_succ]
  exact (regular_ofText _).boundLines_ofText_render

theorem canonical_iterate_of_le (hPasses : 1 ≤ n) (hReturns : t.maxReturns ≤ n) :
    canonical^[n + 2] t = canonical^[n + 1] t := by
  calc canonical^[n + 2] t
      = render (ofText (render (ofText (canonical^[n] t)))) := by
        rw [canonical_iterate_succ, canonical_iterate_succ]
    _ = render (ofText (canonical^[n] t)) := by
        rw [ofText_render_of_faithful (faithful_iterate hPasses hReturns)]
    _ = canonical^[n + 1] t := (canonical_iterate_succ t n).symm

/-- The passes come to rest with the second one, or with the one behind the last that had a carriage
return to take away. Where no line ends with a carriage return two passes are always enough. -/
theorem canonical_iterate_settles (t : Text) :
    (∀ n, max 2 (t.maxReturns + 1) ≤ n → canonical^[n + 1] t = canonical^[n] t) ∧
      ((∀ line ∈ t.lines, line.getLast? ≠ some '\r') → canonical^[3] t = canonical^[2] t) := by
  constructor
  · intro n h
    obtain ⟨hPasses, hReturns⟩ := Nat.max_le.mp h
    obtain ⟨before, rfl⟩ := Nat.exists_eq_add_of_le' (Nat.one_le_of_lt hPasses)
    exact canonical_iterate_of_le (Nat.le_of_succ_le_succ hPasses) (Nat.le_of_succ_le_succ hReturns)
  · intro hNone
    have hReturns : t.maxReturns ≤ 1 := by
      rw [maxReturns_eq_zero hNone]
      exact Nat.zero_le 1
    exact canonical_iterate_of_le (Nat.le_refl 1) hReturns

/-- A text whose last line the second pass takes for a binding. With two carriage returns to lose
behind other lines it comes to rest with the third pass, and without them with the second. -/
theorem canonical_iterate_settles_third :
    let t : Text := "f \x7b\n\tg.Group(\r\r\n\x7d\r\r\r\n// Routes.b\n".toList
    let short : Text := "f \x7b\n\tg.Group(\n\x7d\n// Routes.b\n".toList
    t.maxReturns = 2 ∧ canonical^[4] t = canonical^[3] t ∧ canonical^[3] t ≠ canonical^[2] t ∧
      (∀ line ∈ short.lines, line.getLast? ≠ some '\r') ∧
      canonical^[3] short = canonical^[2] short := by
  intro t short
  have hReturns : t.maxReturns = 2 := by decide +kernel
  have hNone : ∀ line ∈ short.lines, line.getLast? ≠ some '\r' := by decide +kernel
  refine ⟨hReturns, (canonical_iterate_settles t).1 3 ?_, by decide +kernel, hNone,
    (canonical_iterate_settles short).2 hNone⟩
  rw [hReturns]
  decide

end RouteFile

end Scaffold
