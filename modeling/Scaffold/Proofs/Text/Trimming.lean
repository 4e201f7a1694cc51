import Mathlib.Data.List.TakeWhile
import Scaffold.Text.Blank

/-! A trimmed text is the one middle part of a text with blanks alone around it. A pattern without
blanks is therefore found in a text exactly if it is found in the trimmed text, and what is put at
the ends of a text as blanks is gone after trimming. -/

namespace Scaffold.Text

/-- Neither end of the text is a blank. The empty text has no ends. -/
def Bare (t : Text) : Prop :=
  (∀ c ∈ t.head?, isBlank c = false) ∧ ∀ c ∈ t.getLast?, isBlank c = false

/-- The text has a character that is no blank. -/
def NonBlank (t : Text) : Prop :=
  ∃ c ∈ t, isBlank c = false

instance (t : Text) : Decidable t.NonBlank :=
  List.decidableBEx (fun c => isBlank c = false) t

/-- Only one middle part fits between outer blanks, and trimming finds it. -/
theorem trim_of_outer {a m b : Text} (ha : ∀ c ∈ a, isBlank c) (hb : ∀ c ∈ b, isBlank c)
    (hm : Bare m) : trim (a ++ m ++ b) = m := by
  have hStart : trimStart (a ++ m ++ b) = trimStart (m ++ b) := by
    rw [trimStart, trimStart, List.append_assoc, List.dropWhile_append_of_pos ha]
  rw [trim, hStart]
  cases m with
  | nil =>
      have hNone : trimStart b = [] := List.dropWhile_eq_nil_iff.mpr hb
      rw [List.nil_append, hNone]
      rfl
  | cons c m =>
      have hFirst : isBlank c = false := hm.1 c rfl
      have hKeep : trimStart (c :: m ++ b) = c :: m ++ b := by
        rw [trimStart, List.cons_append, List.dropWhile_cons_of_neg (by simp [hFirst])]
      have hBack : ∀ d ∈ b.reverse, isBlank d := fun d hd => hb d (List.mem_reverse.mp hd)
      rw [hKeep, trimEnd, List.reverse_append, List.dropWhile_append_of_pos hBack]
      obtain ⟨d, rest, hRev⟩ : ∃ d rest, (c :: m).reverse = d :: rest :=
        List.exists_cons_of_ne_nil (by simp)
      have hLast : isBlank d = false := by
        refine hm.2 d ?_
        rw [← List.head?_reverse, hRev]
        rfl
      rw [hRev, List.dropWhile_cons_of_neg (by simp [hLast]), ← hRev, List.reverse_reverse]

theorem bare_trim (t : Text) : Bare (trim t) := by
  constructor
  · intro c hc
    have hPrefix : trim t <+: trimStart t := by
      refine List.reverse_suffix.mp ?_
      rw [trim, trimEnd, List.reverse_reverse]
      exact List.dropWhile_suffix _
    obtain ⟨rest, hRest⟩ := hPrefix
    have hHead : (trimStart t).head? = some c := by
      rw [← hRest, List.head?_append, hc]
      rfl
    have hNot := List.head?_dropWhile_not isBlank t
    rw [trimStart] at hHead
    rw [hHead] at hNot
    exact hNot
  · intro c hc
    have hNot := List.head?_dropWhile_not isBlank (trimStart t).reverse
    rw [trim, trimEnd, Option.mem_def, List.getLast?_reverse] at hc
    rw [hc] at hNot
    exact hNot

theorem exists_outer (t : Text) :
    ∃ a b, t = a ++ trim t ++ b ∧ (∀ c ∈ a, isBlank c) ∧ ∀ c ∈ b, isBlank c := by
  refine ⟨t.takeWhile isBlank, ((trimStart t).reverse.takeWhile isBlank).reverse, ?_, ?_, ?_⟩
  · have hEnd : trimEnd (trimStart t) ++ ((trimStart t).reverse.takeWhile isBlank).reverse
        = trimStart t := by
      rw [trimEnd, ← List.reverse_append, List.takeWhile_append_dropWhile, List.reverse_reverse]
    rw [List.append_assoc, trim, hEnd, trimStart, List.takeWhile_append_dropWhile]
  · intro c hc
    exact List.mem_takeWhile_imp hc
  · intro c hc
    exact List.mem_takeWhile_imp (List.mem_reverse.mp hc)

/-- A text that starts with a character other than a blank still does so when it is trimmed. -/
theorem head?_trim {t : Text} {c : Char} (h : t.head? = some c) (hc : isBlank c = false) :
    (trim t).head? = some c := by
  obtain ⟨a, b, hEq, ha, hb⟩ := exists_outer t
  have hOuter {u : Text} (hu : ∀ d ∈ u, isBlank d) : u.head? ≠ some c := fun hHead =>
    absurd (hu c (List.mem_of_head? hHead)) (by simp [hc])
  rw [hEq, List.head?_append, List.head?_append, Option.or_eq_some_iff, Option.or_eq_some_iff] at h
  rcases h with (hFront | ⟨-, hMiddle⟩) | ⟨-, hBack⟩
  · exact absurd hFront (hOuter ha)
  · exact hMiddle
  · exact absurd hBack (hOuter hb)

/-- A text that ends with a character other than a blank still does so when it is trimmed. -/
theorem getLast?_trim {t : Text} {c : Char} (h : t.getLast? = some c) (hc : isBlank c = false) :
    (trim t).getLast? = some c := by
  obtain ⟨a, b, hEq, ha, hb⟩ := exists_outer t
  have hOuter {u : Text} (hu : ∀ d ∈ u, isBlank d) : u.getLast? ≠ some c := fun hLast =>
    absurd (hu c (List.mem_of_getLast? hLast)) (by simp [hc])
  rw [hEq, List.getLast?_append, List.getLast?_append, Option.or_eq_some_iff,
    Option.or_eq_some_iff] at h
  rcases h with hBack | ⟨-, hMiddle | ⟨-, hFront⟩⟩
  · exact absurd hBack (hOuter hb)
  · exact hMiddle
  · exact absurd hFront (hOuter ha)

theorem trim_eq_self_iff {t : Text} : trim t = t ↔ Bare t := by
  constructor
  · intro h
    have hBare := bare_trim t
    rwa [h] at hBare
  · intro h
    simpa using trim_of_outer (a := []) (b := []) (by simp) (by simp) h

@[simp] theorem trim_trim (t : Text) : trim (trim t) = trim t :=
  trim_eq_self_iff.mpr (bare_trim t)

theorem trim_eq_nil_iff {t : Text} : trim t = [] ↔ ∀ c ∈ t, isBlank c := by
  constructor
  · intro h
    obtain ⟨a, b, hEq, ha, hb⟩ := exists_outer t
    rw [h] at hEq
    intro c hc
    rw [hEq, List.append_nil] at hc
    exact (List.mem_append.mp hc).elim (ha c) (hb c)
  · intro h
    simpa using trim_of_outer (m := []) (b := []) h (by simp) (by simp [Bare])

theorem trim_ne_nil_iff {t : Text} : t.trim ≠ [] ↔ t.NonBlank := by
  rw [Ne, trim_eq_nil_iff, NonBlank]
  simp

theorem trim_blank_append {a : Text} (ha : ∀ c ∈ a, isBlank c) (t : Text) :
    trim (a ++ t) = trim t := by
  obtain ⟨b, d, hEq, hb, hd⟩ := exists_outer t
  have hab : ∀ c ∈ a ++ b, isBlank c := fun c hc =>
    (List.mem_append.mp hc).elim (ha c) (hb c)
  have hCut := trim_of_outer hab hd (bare_trim t)
  rw [← hCut]
  congr 1
  rw [List.append_assoc a, List.append_assoc a, ← hEq]

theorem trim_append_blank {b : Text} (hb : ∀ c ∈ b, isBlank c) (t : Text) :
    trim (t ++ b) = trim t := by
  obtain ⟨a, d, hEq, ha, hd⟩ := exists_outer t
  have hdb : ∀ c ∈ d ++ b, isBlank c := fun c hc =>
    (List.mem_append.mp hc).elim (hd c) (hb c)
  have hCut := trim_of_outer ha hdb (bare_trim t)
  rw [← hCut]
  congr 1
  rw [← List.append_assoc, ← hEq]

theorem trimStart_append_of_nonBlank {x : Text} (hx : x.NonBlank) (u : Text) :
    trimStart (x ++ u) = trimStart x ++ u := by
  obtain ⟨c, hc, hSome⟩ := hx
  have hRest : x.dropWhile isBlank ≠ [] := by
    intro hNone
    have hBlank := List.dropWhile_eq_nil_iff.mp hNone c hc
    rw [hSome] at hBlank
    cases hBlank
  rw [trimStart, List.dropWhile_append, if_neg (by simpa using hRest)]
  rfl

theorem trimEnd_append_of_nonBlank {u : Text} (hu : u.NonBlank) (x : Text) :
    trimEnd (x ++ u) = x ++ trimEnd u := by
  obtain ⟨c, hc, hSome⟩ := hu
  have hBack := trimStart_append_of_nonBlank ⟨c, List.mem_reverse.mpr hc, hSome⟩ x.reverse
  rw [trimStart, trimStart] at hBack
  rw [trimEnd, trimEnd, List.reverse_append, hBack, List.reverse_append, List.reverse_reverse]

/-- Trimming takes nothing away where two texts meet, if neither of them is blank. -/
theorem trim_append_of_nonBlank {x u : Text} (hx : x.NonBlank) (hu : u.NonBlank) :
    trim (x ++ u) = trimStart x ++ trimEnd u := by
  rw [trim, trimStart_append_of_nonBlank hx, trimEnd_append_of_nonBlank hu]

theorem trimEnd_of_getLast? {t : Text} {c : Char} (h : t.getLast? = some c)
    (hc : isBlank c = false) : trimEnd t = t := by
  obtain ⟨front, rfl⟩ := List.getLast?_eq_some_iff.mp h
  rw [trimEnd, List.reverse_append, List.reverse_singleton, List.singleton_append,
    List.dropWhile_cons_of_neg (by simp [hc])]
  simp

@[simp] theorem trim_tab (t : Text) : trim ('\t' :: t) = trim t :=
  trim_blank_append (a := ['\t']) (List.all_eq_true.mp (by decide)) t

theorem includes_iff {t pat : Text} : t.includes pat ↔ pat <:+: t := by
  induction t with
  | nil =>
      by_cases hp : pat = []
      · simp [includes, cutAtFirst, hp]
      · simp [includes, cutAtFirst, hp]
  | cons c t ih =>
      rw [List.infix_cons_iff, ← ih, ← List.isPrefixOf_iff_prefix]
      by_cases hp : pat.isPrefixOf (c :: t)
      · simp [includes, cutAtFirst, hp]
      · simp [includes, cutAtFirst, hp]

/-- Characters that the pattern lacks cannot be part of an occurrence, so none of them matters that
stands before or behind it. -/
theorem infix_append_of_forall_notMem {pat a t : Text} (hne : pat ≠ [])
    (ha : ∀ c ∈ pat, c ∉ a) : pat <:+: a ++ t ↔ pat <:+: t := by
  constructor
  · intro h
    rcases List.infix_append_iff.mp h with hIn | hIn | ⟨l, r, rfl, hl, hr⟩
    · obtain ⟨c, rest, rfl⟩ := List.exists_cons_of_ne_nil hne
      exact absurd (hIn.subset (List.mem_cons_self ..)) (ha c (List.mem_cons_self ..))
    · exact hIn
    · have hNil : l = [] := List.eq_nil_iff_forall_not_mem.mpr fun c hc =>
        ha c (List.mem_append_left _ hc) (hl.subset hc)
      rw [hNil, List.nil_append]
      exact hr.isInfix
  · exact fun h => h.trans (List.suffix_append _ _).isInfix

theorem infix_append_of_forall_notMem_right {pat t b : Text} (hne : pat ≠ [])
    (hb : ∀ c ∈ pat, c ∉ b) : pat <:+: t ++ b ↔ pat <:+: t := by
  rw [← List.reverse_infix, List.reverse_append,
    infix_append_of_forall_notMem (by simpa using hne) (by simpa using hb), List.reverse_infix]

/-- A character that the pattern lacks separates the places where it can be found. -/
theorem includes_append_cons {pat a t : Text} {c : Char} (hne : pat ≠ []) (hc : c ∉ pat) :
    includes (a ++ c :: t) pat = (includes a pat || includes t pat) := by
  rw [Bool.eq_iff_iff, Bool.or_eq_true, includes_iff, includes_iff, includes_iff]
  constructor
  · intro h
    rcases List.infix_append_iff.mp h with hIn | hIn | ⟨l, r, rfl, hl, hr⟩
    · exact Or.inl hIn
    · have hSep : ∀ d ∈ pat, d ∉ [c] := by
        intro d hd hEq
        rw [List.mem_singleton.mp hEq] at hd
        exact hc hd
      exact Or.inr ((infix_append_of_forall_notMem hne hSep).mp hIn)
    · cases r with
      | nil =>
          rw [List.append_nil]
          exact Or.inl hl.isInfix
      | cons d r =>
          have hd : d = c := (List.cons_prefix_cons.mp hr).1
          exact absurd (List.mem_append_right l (hd ▸ List.mem_cons_self ..)) hc
  · rintro (h | h)
    · exact h.trans (List.prefix_append _ _).isInfix
    · exact h.trans ((List.suffix_cons c t).trans (List.suffix_append _ _)).isInfix

/-- A pattern without blanks is not found in the blanks around a text. -/
theorem includes_trim {pat : Text} (hne : pat ≠ []) (hpat : pat.any isBlank = false) (t : Text) :
    (trim t).includes pat = t.includes pat := by
  obtain ⟨a, b, hEq, ha, hb⟩ := exists_outer t
  have hApart : ∀ {u : Text}, (∀ c ∈ u, isBlank c) → ∀ c ∈ pat, c ∉ u := by
    intro u hu c hc hMem
    exact List.any_eq_false.mp hpat c hc (hu c hMem)
  have hFound : pat <:+: t ↔ pat <:+: trim t := by
    conv => lhs; rw [hEq]
    rw [infix_append_of_forall_notMem_right hne (hApart hb),
      infix_append_of_forall_notMem hne (hApart ha)]
  rw [Bool.eq_iff_iff, includes_iff, includes_iff, hFound]

end Scaffold.Text
