import Scaffold.Proofs.Route.RoundTrip

/-! When the canonical form of a text is its own canonical form. The first pass moves the lines that
close blocks to the end, so a line that stood behind a block can stand inside one in the second pass
and be taken for a binding. The form is stable if such lines already stand where the second pass
puts them, and if no line loses a carriage return. -/

namespace Scaffold.RouteFile

open Text Surroundings

/-- The last lines of the preamble may count as bindings if they are written as bindings and come
in order before the others. Nothing else may change when the zones are read again. -/
def Settled (f : RouteFile) : Prop :=
  ∃ early late, f.preamble = early ++ late.map ('\t' :: ·) ∧
    Faithful { preamble := early, bindings := late ++ f.bindings, closing := f.closing }

theorem Regular.filter_closes {f : RouteFile} (h : Regular f) :
    (f.preamble ++ f.bindings.map ('\t' :: ·) ++ f.closing).filter closes = f.closing := by
  have hFront : (f.preamble ++ f.bindings.map ('\t' :: ·)).filter closes = [] := by
    apply List.filter_eq_nil_iff.mpr
    intro line hLine
    rcases List.mem_append.mp hLine with hLine | hLine
    · simp [h.preamble line hLine]
    · simp [closes_of_isBindable (h.isBindable_of_mem_written hLine)]
  rw [List.filter_append, hFront, List.filter_eq_self.mpr h.closing, List.nil_append]

/-- Regular zones settle if faithful zones give the same text. The closing lines are the same. The
preamble of the faithful zones is no longer than the other one, since no binding can stand in it,
and what is missing from it are bindings. -/
theorem settled_of_render_eq {f g : RouteFile} (hf : Regular f) (hg : Faithful g)
    (h : render f = render g) : Settled f := by
  have hLines := ofLines_injective hf.written hg.toRegular.written h
  have hClosing : f.closing = g.closing := by
    rw [← hf.filter_closes, hLines, hg.toRegular.filter_closes]
  rw [hClosing] at hLines
  have hTab : Function.Injective ('\t' :: · : Line → Line) := List.cons_injective
  have hLate (late : List Line) (hPreamble : f.preamble = g.preamble ++ late.map ('\t' :: ·))
      (hBindings : g.bindings = late ++ f.bindings) : Settled f := by
    refine ⟨g.preamble, late, hPreamble, ?_⟩
    rw [← hBindings, hClosing]
    exact hg
  rcases List.append_eq_append_iff.mp (List.append_cancel_right hLines) with
    ⟨moved, hPreamble, hBindings⟩ | ⟨moved, hPreamble, hBindings⟩
  · obtain ⟨early, rest, hSplit, rfl, hRest⟩ := List.map_eq_append_iff.mp hBindings
    have hSame : rest = g.bindings := hTab.list_map hRest
    cases early with
    | nil => exact hLate [] (by simpa using hPreamble.symm) (by simpa [hSame] using hSplit.symm)
    | cons line early =>
        -- A binding of `f` in the preamble of `g` would stand behind the armed preamble of `f`.
        have hMem : line ∈ f.bindings := by rw [hSplit]; simp
        have hArmed := hf.armed (List.ne_nil_of_mem hMem)
        have hBindable := hf.isBindable hMem
        rw [← isBindable_of_trim_eq (trim_tab line)] at hBindable
        obtain ⟨hRoutes, hGroup, hOpens, -⟩ := isBindable_iff.mp hBindable
        rcases hg.settled f.preamble ('\t' :: line) _ hPreamble hArmed hRoutes with hNot | hNot
        · rw [hGroup] at hNot
          cases hNot
        · rw [hOpens] at hNot
          cases hNot
  · obtain ⟨late, rest, hSplit, rfl, hRest⟩ := List.map_eq_append_iff.mp hBindings
    have hSame : rest = f.bindings := hTab.list_map hRest
    exact hLate late hPreamble (by rw [hSplit, hSame])

theorem Settled.ofText_render {f : RouteFile} (h : Settled f) :
    render (ofText (render f)) = render f := by
  obtain ⟨early, late, hPreamble, hFaithful⟩ := h
  have hSame : render f =
      render { preamble := early, bindings := late ++ f.bindings, closing := f.closing } := by
    rw [render, render, hPreamble, List.map_append, List.append_assoc early]
  rw [hSame, ofText_render_of_faithful hFaithful]

/-- A second pass leaves the canonical form of the text alone exactly if its zones settle. -/
theorem canonical_canonical_iff (t : Text) :
    canonical (canonical t) = canonical t ↔ Settled (ofText t) := by
  constructor
  · intro h
    have hBack : ofText (render (ofText (canonical t))) = ofText (canonical t) :=
      congrArg ofText h
    exact settled_of_render_eq (regular_ofText t) (faithful_of_ofText_render hBack) h.symm
  · exact Settled.ofText_render

/-- A comment behind the block is a preamble line for the first pass. The first pass moves it in
front of the closing brace, and the second one takes it for a binding and indents it. -/
theorem canonical_canonical_ne :
    canonical (canonical "func A() \x7b\n\ta := api.Group()\n\x7d\n// see Routes.b\n".toList) ≠
      canonical "func A() \x7b\n\ta := api.Group()\n\x7d\n// see Routes.b\n".toList := by
  decide +kernel

end Scaffold.RouteFile
