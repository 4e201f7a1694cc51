import Scaffold.Proofs.Disk.Places
import Scaffold.Proofs.Text.Recased

/-! Paths below other paths. A name that is put behind a base leads below it unless it is an absolute
path, which stands for itself. This holds of the components as they are written; where the steps upwards
are missing, it holds of the places too. -/

namespace Scaffold

/-- The text is a relative path without steps upwards. -/
def Text.IsDownward (t : Text) : Prop :=
  t.head? ≠ some '/' ∧ Path.up ∉ (Path.mk t).steps

instance (t : Text) : Decidable t.IsDownward :=
  inferInstanceAs (Decidable (_ ∧ _))

namespace Path

/-- The components of the path: the root directory if it starts there, and then its steps. A step that
stays in its directory counts at the start of a relative path alone. -/
def components (p : Path) : List Text :=
  if p.isAbsolute then ['/'] :: moves p.steps
  else
    match p.steps with
    | [] => []
    | first :: rest => first :: moves rest

/-- The path starts with all the components of the base. -/
def IsBelow (p base : Path) : Prop :=
  base.components <+: p.components

instance (p base : Path) : Decidable (p.IsBelow base) :=
  inferInstanceAs (Decidable (_ <+: _))

theorem IsBelow.trans {p q r : Path} (h : p.IsBelow q) (h' : q.IsBelow r) : p.IsBelow r :=
  List.IsPrefix.trans h' h

theorem join_of_absolute (base : Path) {name : Text} (h : name.head? = some '/') :
    base.join name = ⟨name⟩ :=
  if_pos (Or.inl h)

theorem isAbsolute_join (base : Path) {name : Text} (h : name.head? ≠ some '/') :
    (base.join name).isAbsolute = base.isAbsolute := by
  rw [join]
  split_ifs with hNew hSlash
  · have hEmpty : base.text = [] := hNew.resolve_left h
    simp [isAbsolute, hEmpty, h]
  · cases hText : base.text <;> simp_all [isAbsolute]
  · cases hText : base.text <;> simp_all [isAbsolute]

theorem isBelow_join (base : Path) {name : Text} (h : name.head? ≠ some '/') :
    (base.join name).IsBelow base := by
  rw [IsBelow, components, components, isAbsolute_join base h, steps_join base h]
  split_ifs
  · rw [moves_append]
    exact List.prefix_append (['/'] :: moves base.steps) _
  · cases base.steps with
    | nil => exact List.nil_prefix
    | cons first rest =>
        change first :: moves rest <+: first :: moves (rest ++ _)
        rw [moves_append]
        exact List.prefix_append (first :: moves rest) _

/-- What is put behind a base leads below it exactly if it does so where it is an absolute path. -/
theorem isBelow_join_iff (base : Path) (name : Text) :
    (base.join name).IsBelow base ↔ (name.head? = some '/' → (Path.mk name).IsBelow base) := by
  by_cases h : name.head? = some '/'
  · simp [join_of_absolute base h, h]
  · exact iff_of_true (isBelow_join base h) fun hAbsolute => absurd hAbsolute h

theorem prefix_foldl_follow {steps : List Text} (h : up ∉ steps) (l : Location) :
    l <+: steps.foldl follow l := by
  induction steps generalizing l with
  | nil => exact List.prefix_refl l
  | cons step rest ih =>
      rw [List.mem_cons, not_or] at h
      rw [List.foldl_cons]
      refine List.IsPrefix.trans ?_ (ih h.2 _)
      rw [follow]
      split_ifs with hStay hUp
      · exact List.prefix_refl l
      · exact absurd hUp.symm h.1
      · exact List.prefix_append l [step]

theorem prefix_location_join (base : Path) {name : Text} (h : name.IsDownward) :
    base.location <+: (base.join name).location := by
  rw [location, location, steps_join base h.1, List.foldl_append]
  exact prefix_foldl_follow h.2 _

end Path

namespace Text

open Scaffold.Path

theorem isDownward_append {t extension : Text} (h : t.IsDownward)
    (hExtension : IsExtension extension) : (t ++ extension).IsDownward := by
  have hSome : extension ≠ [] := append_ne hExtension [] (by decide)
  constructor
  · cases t with
    | nil => exact fun hHead => hExtension.noSlash (List.mem_of_head? hHead)
    | cons c rest => exact h.1
  · obtain ⟨pieces, last, hPieces⟩ := (Path.mk t).exists_splitOn_extend
    have hUp := h.2
    have hOld := hPieces [] List.not_mem_nil
    have hNew := hPieces extension hExtension.noSlash
    rw [extend, List.append_nil] at hOld
    rw [extend] at hNew
    rw [steps, List.mem_filter, hOld, List.mem_append] at hUp
    rw [steps, List.mem_filter, hNew, List.mem_append, List.mem_singleton]
    rintro ⟨hMem | hLast, hUpSome⟩
    · exact hUp ⟨Or.inl hMem, hUpSome⟩
    · exact append_ne hExtension last (by decide) hLast.symm

theorem isDownward_lower {t : Text} (h : t.IsDownward) : t.lower.IsDownward := by
  constructor
  · rw [Ne, (recased_lower t).head?_eq_slash_iff]
    exact h.1
  · have hUp := h.2
    have hPoints : ∀ c ∈ up, c = '.' := by simp [up]
    rw [steps, List.mem_filter] at hUp ⊢
    rintro ⟨hMem, hSome⟩
    exact hUp ⟨mem_splitOn_of_lower hPoints hMem, hSome⟩

theorem steps_dropLeading (t : Text) : (Path.mk (t.dropLeading '/')).steps = (Path.mk t).steps := by
  induction t with
  | nil => rfl
  | cons c rest ih =>
      by_cases hSlash : c = '/'
      · subst hSlash
        have hSplit : ('/' :: rest).splitOn '/' = [] :: rest.splitOn '/' := by
          simp [List.splitOn_cons_eq_if_modifyHead]
        rw [dropLeading, List.dropWhile_cons_of_pos (by simp), ← dropLeading, ih, steps, steps, hSplit]
        simp
      · rw [dropLeading, List.dropWhile_cons_of_neg (by simpa using hSlash)]

theorem steps_dropTrailing (t : Text) :
    (Path.mk (t.reverse.dropWhile (· == '/')).reverse).steps = (Path.mk t).steps := by
  induction t using List.reverseRecOn with
  | nil => rfl
  | append_singleton t c ih =>
      rw [List.reverse_append, List.reverse_singleton, List.singleton_append]
      by_cases hSlash : c = '/'
      · subst hSlash
        rw [List.dropWhile_cons_of_pos (by simp), ih, steps, steps,
          List.splitOn_append_cons_self, List.filter_append]
        simp
      · rw [List.dropWhile_cons_of_neg (by simpa using hSlash)]
        simp

theorem head?_stripChar (t : Text) : (t.stripChar '/').head? ≠ some '/' := by
  intro hHead
  obtain ⟨rest, hRest⟩ : t.stripChar '/' <+: t.dropLeading '/' := by
    apply List.reverse_suffix.mp
    rw [stripChar, List.reverse_reverse]
    exact List.dropWhile_suffix _
  apply head?_dropLeading_ne '/' t
  rw [← hRest, List.head?_append, hHead]
  rfl

/-- Without the slashes at its ends a text is a relative path with the same steps. -/
theorem isDownward_stripChar {t : Text} (h : Path.up ∉ (Path.mk t).steps) :
    (t.stripChar '/').IsDownward := by
  refine ⟨head?_stripChar t, ?_⟩
  rwa [stripChar, steps_dropTrailing, steps_dropLeading]

end Text

end Scaffold
