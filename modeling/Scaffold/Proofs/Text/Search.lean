import Scaffold.Proofs.Text.Lines

namespace Scaffold

namespace Text

variable {pat : Text}

theorem prefix_of_cutAtFirst {t before after : Text}
    (h : t.cutAtFirst pat = some (before, after)) : pat <+: after := by
  induction t generalizing before after with
  | nil =>
      unfold cutAtFirst at h
      split at h <;> simp_all
  | cons c rest ih =>
      unfold cutAtFirst at h
      split at h
      · rename_i hPrefix
        obtain ⟨-, rfl⟩ := Prod.mk.inj (Option.some.inj h)
        exact List.isPrefixOf_iff_prefix.mp hPrefix
      · obtain ⟨⟨b, a⟩, hCut, hEq⟩ := Option.map_eq_some_iff.mp h
        obtain ⟨-, rfl⟩ := Prod.mk.inj hEq
        exact ih hCut

theorem cutAtFirst_of_pos {t : Text} (h : pat <+: t) : t.cutAtFirst pat = some ([], t) := by
  cases t with
  | nil => rw [cutAtFirst, if_pos (List.prefix_nil.mp h)]
  | cons c t => rw [cutAtFirst, if_pos (List.isPrefixOf_iff_prefix.mpr h)]

theorem cutAtFirst_cons_of_neg {c : Char} {t : Text} (h : ¬ pat <+: c :: t) :
    cutAtFirst (c :: t) pat =
      (t.cutAtFirst pat).map fun (before, after) => (c :: before, after) := by
  rw [cutAtFirst, if_neg (mt List.isPrefixOf_iff_prefix.mp h)]

/-- What stands behind a text does not move the first occurrence in it. -/
theorem cutAtFirst_append {t before after : Text} (h : t.cutAtFirst pat = some (before, after))
    (rest : Text) : (t ++ rest).cutAtFirst pat = some (before, after ++ rest) := by
  induction t generalizing before after with
  | nil =>
      have hPat : pat = [] := by
        by_contra hne
        rw [cutAtFirst, if_neg hne] at h
        cases h
      rw [cutAtFirst, if_pos hPat] at h
      obtain ⟨rfl, rfl⟩ := Prod.mk.inj (Option.some.inj h)
      exact cutAtFirst_of_pos (hPat ▸ List.nil_prefix)
  | cons c t ih =>
      by_cases hPrefix : pat <+: c :: t
      · rw [cutAtFirst_of_pos hPrefix] at h
        obtain ⟨rfl, rfl⟩ := Prod.mk.inj (Option.some.inj h)
        exact cutAtFirst_of_pos (hPrefix.trans (List.prefix_append _ _))
      · rw [cutAtFirst_cons_of_neg hPrefix] at h
        obtain ⟨⟨b, a⟩, hCut, hEq⟩ := Option.map_eq_some_iff.mp h
        obtain ⟨rfl, rfl⟩ := Prod.mk.inj hEq
        -- The pattern fits into `t`, so a longer text has no other beginning for it.
        have hFits : pat.length ≤ (c :: t).length := by
          have hLength := (prefix_of_cutAtFirst hCut).length_le
          rw [← append_of_cutAtFirst hCut, List.length_cons, List.length_append]
          omega
        have hStill : ¬ pat <+: c :: (t ++ rest) := fun hMore =>
          hPrefix (List.prefix_of_prefix_length_le hMore (List.prefix_append (c :: t) rest) hFits)
        rw [List.cons_append, cutAtFirst_cons_of_neg hStill, ih hCut]
        rfl

theorem prefix_of_prefix_line (hpat : '\n' ∉ pat) {line : Line} {rest : Text}
    (h : pat <+: line ++ '\n' :: rest) : pat <+: line := by
  rcases List.prefix_or_prefix_of_prefix h (List.prefix_append _ _) with hLine | ⟨more, rfl⟩
  · exact hLine
  · cases more with
    | nil => simp
    | cons c more =>
        have hc := (List.cons_prefix_cons.mp ((List.prefix_append_right_inj line).mp h)).1
        exact absurd (hc ▸ List.mem_append_right line (List.mem_cons_self ..)) hpat

/-- An occurrence does not reach over the end of a line. -/
theorem cutAtFirst_line_append (hpat : '\n' ∉ pat) {line : Line}
    (h : line.includes pat = false) (rest : Text) :
    (line ++ '\n' :: rest).cutAtFirst pat =
      (rest.cutAtFirst pat).map fun (before, after) => (line ++ '\n' :: before, after) := by
  have hNone : ¬ pat <:+: line := by
    rw [← includes_iff, h]
    exact Bool.false_ne_true
  clear h
  induction line with
  | nil =>
      refine cutAtFirst_cons_of_neg fun hPrefix => hNone ?_
      rw [← List.nil_append ('\n' :: rest)] at hPrefix
      exact (prefix_of_prefix_line hpat hPrefix).isInfix
  | cons c line ih =>
      have hHead : ¬ pat <+: (c :: line) ++ '\n' :: rest := fun hPrefix =>
        hNone (prefix_of_prefix_line hpat hPrefix).isInfix
      have hTail : ¬ pat <:+: line := fun hIn => hNone (hIn.trans (List.suffix_cons c line).isInfix)
      rw [List.cons_append] at hHead ⊢
      rw [cutAtFirst_cons_of_neg hHead, ih hTail, Option.map_map]
      rfl

theorem cutAtFirst_ofLines_append (hpat : '\n' ∉ pat) {ls : List Line}
    (h : ∀ line ∈ ls, line.includes pat = false) (rest : Text) :
    (ofLines ls ++ rest).cutAtFirst pat =
      (rest.cutAtFirst pat).map fun (before, after) => (ofLines ls ++ before, after) := by
  induction ls with
  | nil => simp
  | cons line ls ih =>
      have hRest := ih fun other hMem => h other (List.mem_cons_of_mem _ hMem)
      rw [ofLines_cons, List.append_assoc, List.cons_append,
        cutAtFirst_line_append hpat (h line (List.mem_cons_self ..)), hRest, Option.map_map]
      simp [Function.comp_def]

/-- A text with an occurrence has a segment with one. -/
theorem exists_segment_of_includes (hne : pat ≠ []) (hpat : '\n' ∉ pat) {t : Text}
    (h : t.includes pat) : ∃ segment ∈ segments t, segment.includes pat := by
  induction t using line_induction with
  | nil => exact absurd (List.infix_nil.mp (includes_iff.mp h)) hne
  | last s hs hLine =>
      rw [segments_of_no_newline hs hLine]
      exact ⟨s, List.mem_cons_self .., h⟩
  | line line rest hLine ih =>
      rw [segments_append_newline, segments_line hLine]
      rw [includes_append_cons hne hpat, Bool.or_eq_true] at h
      rcases h with hFirst | hRest
      · refine ⟨line ++ ['\n'], List.mem_cons_self .., ?_⟩
        rw [includes_append_cons hne hpat, hFirst, Bool.true_or]
      · obtain ⟨segment, hMem, hIn⟩ := ih hRest
        exact ⟨segment, List.mem_cons_of_mem _ hMem, hIn⟩

theorem cutAfterLine_line_append {line : Line} (h : '\n' ∉ line) (rest : Text) :
    cutAfterLine (line ++ '\n' :: rest) = (line ++ ['\n'], rest) := by
  induction line with
  | nil => rfl
  | cons c line ih =>
      have hc : c ≠ '\n' := fun hEq => h (hEq ▸ List.mem_cons_self ..)
      rw [List.cons_append, cutAfterLine, if_neg hc,
        ih fun hMem => h (List.mem_cons_of_mem _ hMem)]
      rfl

theorem cutAfterLine_of_no_newline {line : Line} (h : '\n' ∉ line) :
    cutAfterLine line = (line, []) := by
  induction line with
  | nil => rfl
  | cons c line ih =>
      have hc : c ≠ '\n' := fun hEq => h (hEq ▸ List.mem_cons_self ..)
      rw [cutAfterLine, if_neg hc, ih fun hMem => h (List.mem_cons_of_mem _ hMem)]

end Text

end Scaffold
