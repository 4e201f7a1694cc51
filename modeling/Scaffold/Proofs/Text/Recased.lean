import Scaffold.Proofs.Text.CaseMapping

namespace Scaffold

/-- The class of the point and the slash. -/
def markRange : Ranges := [(0x2E, 0x2F)]

theorem holds_markRange_iff {c : Char} : markRange.holds c.toNat ↔ c = '.' ∨ c = '/' := by
  rw [← Char.toNat_inj, ← Char.toNat_inj, markRange]
  change _ ↔ c.toNat = 46 ∨ c.toNat = 47
  simp only [Ranges.holds]
  split <;> simp <;> omega

theorem mark_notMem_lowerCase {c : Char} (hc : c ≠ '.' ∧ c ≠ '/') :
    '.' ∉ lowerCase c ∧ '/' ∉ lowerCase c := by
  have hOutside : markRange.holds c.toNat = false := by
    apply Bool.eq_false_iff.mpr
    intro hHolds
    rcases holds_markRange_iff.mp hHolds with hPoint | hSlash
    · exact hc.1 hPoint
    · exact hc.2 hSlash
  have hNot {d : Char} (hMem : d ∈ lowerCase c) : markRange.holds d.toNat = false :=
    not_holds_of_mem_mapCase (by decide +kernel) (by decide +kernel) (by decide) hOutside hMem
  constructor
  · intro hMem
    cases hNot hMem
  · intro hMem
    cases hNot hMem

namespace Text

/-- The second text is the first one with characters other than points and slashes exchanged for
some such characters each. -/
inductive Recased : Text → Text → Prop where
  | nil : Recased [] []
  | mark {c : Char} {t u : Text} (mark : c = '.' ∨ c = '/') (rest : Recased t u) :
      Recased (c :: t) (c :: u)
  | other {c : Char} {image t u : Text} (other : c ≠ '.' ∧ c ≠ '/') (some : image ≠ [])
      (others : '.' ∉ image ∧ '/' ∉ image) (rest : Recased t u) : Recased (c :: t) (image ++ u)

theorem recased_lowerAfter (before t : Text) : Recased t (lowerAfter before t) := by
  induction t generalizing before with
  | nil => exact .nil
  | cons c rest ih =>
      rw [lowerAfter]
      by_cases hSigma : c = 'Σ'
      · subst hSigma
        rw [if_pos rfl]
        refine .other (by decide) (by simp) ?_ (ih _)
        split <;> decide
      · rw [if_neg hSigma]
        by_cases hPoint : c = '.'
        · subst hPoint
          exact .mark (Or.inl rfl) (ih _)
        · by_cases hSlash : c = '/'
          · subst hSlash
            exact .mark (Or.inr rfl) (ih _)
          · exact .other ⟨hPoint, hSlash⟩ (lowerCase_ne_nil c)
              (mark_notMem_lowerCase ⟨hPoint, hSlash⟩) (ih _)

theorem recased_lower (t : Text) : Recased t t.lower :=
  recased_lowerAfter [] t

variable {t u : Text}

theorem Recased.head?_eq_slash_iff (h : Recased t u) :
    u.head? = some '/' ↔ t.head? = some '/' := by
  cases h with
  | nil => rfl
  | mark => rfl
  | @other c image _ _ hOther hSome hOthers =>
      rw [List.head?_append_of_ne_nil _ hSome]
      apply iff_of_false
      · exact fun hHead => hOthers.2 (List.mem_of_head? hHead)
      · exact fun hHead => hOther.2 (Option.some.inj hHead)

theorem Recased.eq_nil (h : Recased t []) : t = [] := by
  generalize hNil : ([] : Text) = u at h
  cases h with
  | nil => rfl
  | mark => cases hNil
  | other hOther hSome => exact absurd (List.append_eq_nil_iff.mp hNil.symm).1 hSome

theorem Recased.exists_of_point (h : Recased t ('.' :: u)) : ∃ rest, t = '.' :: rest ∧ Recased rest u := by
  generalize hPoint : '.' :: u = v at h
  cases h with
  | nil => cases hPoint
  | mark hMark hRest =>
      obtain ⟨rfl, rfl⟩ := List.cons.inj hPoint
      exact ⟨_, rfl, hRest⟩
  | @other c image _ _ hOther hSome hOthers =>
      obtain ⟨d, more, rfl⟩ := List.exists_cons_of_ne_nil hSome
      obtain ⟨rfl, -⟩ := List.cons.inj hPoint
      exact absurd (List.mem_cons_self ..) hOthers.1

theorem splitOn_append_of_notMem {c : Char} {xs : Text} (h : c ∉ xs) (ys : Text) :
    (xs ++ ys).splitOn c = (ys.splitOn c).modifyHead (xs ++ ·) := by
  obtain ⟨first, more, hSplit⟩ := List.exists_cons_of_ne_nil (List.splitOn_ne_nil c ys)
  induction xs with
  | nil => simp [hSplit]
  | cons x xs ih =>
      rw [List.mem_cons, not_or] at h
      rw [List.cons_append, List.splitOn_cons_eq_if_modifyHead, if_neg (by simpa using Ne.symm h.1),
        ih h.2, hSplit]
      rfl

theorem splitOn_of_notMem {c : Char} {xs : Text} (h : c ∉ xs) : xs.splitOn c = [xs] := by
  simpa using splitOn_append_of_notMem h []

/-- The pieces between the slashes correspond one by one. -/
theorem Recased.splitOn (h : Recased t u) :
    List.Forall₂ Recased (t.splitOn '/') (u.splitOn '/') := by
  induction h with
  | nil => exact .cons .nil .nil
  -- A slash begins a piece in both texts; everything else goes on with the first piece of the rest.
  | @mark c t u hMark hRest ih =>
      rw [List.splitOn_cons_eq_if_modifyHead, List.splitOn_cons_eq_if_modifyHead]
      rcases hMark with rfl | rfl
      · obtain ⟨first, more, hFirst⟩ := List.exists_cons_of_ne_nil (List.splitOn_ne_nil '/' t)
        obtain ⟨first', more', hFirst'⟩ := List.exists_cons_of_ne_nil (List.splitOn_ne_nil '/' u)
        rw [hFirst, hFirst'] at ih ⊢
        cases ih with
        | cons hHead hTail => exact .cons (.mark (Or.inl rfl) hHead) hTail
      · exact .cons .nil ih
  | @other c image t u hOther hSome hOthers hRest ih =>
      rw [splitOn_append_of_notMem hOthers.2, List.splitOn_cons_eq_if_modifyHead,
        if_neg (by simpa using hOther.2)]
      obtain ⟨first, more, hFirst⟩ := List.exists_cons_of_ne_nil (List.splitOn_ne_nil '/' t)
      obtain ⟨first', more', hFirst'⟩ := List.exists_cons_of_ne_nil (List.splitOn_ne_nil '/' u)
      rw [hFirst, hFirst'] at ih ⊢
      cases ih with
      | cons hHead hTail => exact .cons (.other hOther hSome hOthers hHead) hTail

theorem Recased.eq_of_points (h : Recased t u) (hPoints : ∀ c ∈ u, c = '.') : t = u := by
  induction u generalizing t with
  | nil => exact h.eq_nil
  | cons c u ih =>
      obtain rfl := hPoints c (List.mem_cons_self ..)
      obtain ⟨rest, rfl, hRest⟩ := h.exists_of_point
      rw [ih hRest fun d hd => hPoints d (List.mem_cons_of_mem _ hd)]

theorem exists_of_mem_of_forall₂ {pieces pieces' : List Text}
    (h : List.Forall₂ Recased pieces pieces') {piece : Text} (hMem : piece ∈ pieces') :
    ∃ before ∈ pieces, Recased before piece := by
  induction h with
  | nil => cases hMem
  | @cons a b as bs hHead hTail ih =>
      rcases List.mem_cons.mp hMem with rfl | hMem
      · exact ⟨a, List.mem_cons_self .., hHead⟩
      · obtain ⟨before, hBefore, hRecased⟩ := ih hMem
        exact ⟨before, List.mem_cons_of_mem _ hBefore, hRecased⟩

/-- A piece of points was there before the text was put in lower case. -/
theorem mem_splitOn_of_lower {piece : Text} (hPoints : ∀ c ∈ piece, c = '.')
    (h : piece ∈ t.lower.splitOn '/') : piece ∈ t.splitOn '/' := by
  obtain ⟨before, hMem, hRecased⟩ := exists_of_mem_of_forall₂ (recased_lower t).splitOn h
  rwa [← hRecased.eq_of_points hPoints]

end Text

end Scaffold
