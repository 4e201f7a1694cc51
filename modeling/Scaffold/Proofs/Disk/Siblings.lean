import Scaffold.Proofs.Disk.Creation
import Scaffold.Proofs.Text.Lines

namespace Scaffold

namespace Path

/-- The path with the extension at its end. -/
def extend (p : Path) (extension : Text) : Path :=
  ⟨p.text ++ extension⟩

/-- The last step of the path. -/
def fileName (p : Path) : Text :=
  p.steps.getLastD []

/-- The text makes a name of whatever it is put behind. -/
structure IsExtension (extension : Text) : Prop where
  noSlash : '/' ∉ extension
  long : 2 < extension.length

variable {p : Path} {extension : Text}

theorem join_append (base : Path) (name : Text) (h : extension.head? ≠ some '/') :
    base.join (name ++ extension) = (base.join name).extend extension := by
  have hHead : (name ++ extension).head? = some '/' ↔ name.head? = some '/' := by
    cases name with
    | nil => simpa using h
    | cons c name => simp
  simp only [join, hHead]
  split_ifs <;> simp [extend]

/-- An extension changes the last piece of a path alone. -/
theorem exists_splitOn_extend (p : Path) :
    ∃ pieces last, ∀ extension, '/' ∉ extension →
      (p.extend extension).text.splitOn '/' = pieces ++ [last ++ extension] := by
  cases hCut : Text.cutAtLast '/' p.text with
  | none =>
      have hNone := Text.cutAtLast_eq_none_iff.mp hCut
      refine ⟨[], p.text, fun extension hSlash => ?_⟩
      rw [extend, List.splitOn_eq_singleton (by simp [hNone, hSlash])]
      rfl
  | some parts =>
      obtain ⟨before, after⟩ := parts
      obtain ⟨rest, -, hText, hRest⟩ := Text.exists_of_cutAtLast hCut
      refine ⟨before.splitOn '/', rest, fun extension hSlash => ?_⟩
      have hLast : (rest ++ extension).splitOn '/' = [rest ++ extension] :=
        List.splitOn_eq_singleton (by simp [hRest, hSlash])
      rw [extend, hText, List.append_assoc, List.cons_append, List.splitOn_append_cons_self, hLast]

theorem append_ne (h : IsExtension extension) (last : Text) {piece : Text}
    (hPiece : piece.length ≤ 2) : last ++ extension ≠ piece := by
  intro hEq
  have hLong := h.long
  have hLength := congrArg List.length hEq
  rw [List.length_append] at hLength
  omega

theorem exists_steps_extend (p : Path) :
    ∃ above last, ∀ extension, IsExtension extension →
      (p.extend extension).steps = above ++ [last ++ extension] := by
  obtain ⟨pieces, last, hPieces⟩ := p.exists_splitOn_extend
  refine ⟨pieces.filter (· ≠ []), last, fun extension h => ?_⟩
  have hSome : last ++ extension ≠ [] := append_ne h last (by decide)
  rw [steps, hPieces extension h.noSlash, List.filter_append, List.filter_singleton,
    decide_eq_true hSome]
  rfl

theorem exists_parent_extend (p : Path) :
    ∃ above, ∀ extension, IsExtension extension → (p.extend extension).parent? = some above := by
  obtain ⟨pieces, last, hPieces⟩ := p.exists_splitOn_extend
  cases pieces with
  | nil =>
      refine ⟨⟨[]⟩, fun extension h => ?_⟩
      rw [parent?, hPieces extension h.noSlash]
      exact if_neg (append_ne h last (by decide))
  | cons first pieces =>
      let kept := (pieces.reverse.dropWhile isIdle).reverse
      refine ⟨if first = [] ∧ kept = [] then ⟨['/']⟩ else ⟨['/'].intercalate (first :: kept)⟩,
        fun extension h => ?_⟩
      have hBusy : isIdle (last ++ extension) = false := by
        rw [isIdle, beq_eq_false_iff_ne.mpr (append_ne h last (by decide)),
          beq_eq_false_iff_ne.mpr (append_ne h last (by decide))]
        rfl
      rw [parent?, hPieces extension h.noSlash, List.cons_append]
      simp only [List.reverse_append, List.reverse_singleton, List.singleton_append]
      rw [List.dropWhile_cons_of_neg (by simp [hBusy])]
      simp only
      split_ifs <;> rfl

end Path

namespace FileTree

open Scaffold.Path

variable {t : FileTree} {p : Path} {extension other : Text} {here : Location} {name : Text}

theorem wantsDirectory_extend (h : IsExtension extension) (p : Path) :
    wantsDirectory (p.extend extension) = false := by
  have hSome : extension ≠ [] := append_ne h [] (by decide)
  rw [wantsDirectory, extend, List.getLast?_append_of_ne_nil _ hSome]
  refine beq_eq_false_iff_ne.mpr fun hLast => h.noSlash ?_
  exact List.mem_of_getLast? hLast

theorem admissible_eq_ok_iff :
    admissible p = .ok () ↔ '\x00' ∉ p.text ∧ p.text ≠ [] ∧ Text.byteSize p.text ≤ pathLimit := by
  rw [admissible]
  split_ifs <;> simp_all

theorem fileName_of_slot (hSlot : t.slot p = .ok (here, some name)) : p.fileName = name := by
  obtain ⟨-, above, hSteps, -⟩ := slot_eq_iff.mp hSlot
  rw [fileName, hSteps]
  simp

/-- A file has a slot beside that of another one unless its path is too long. -/
theorem slot_extend (h : IsExtension extension) (hOther : IsExtension other)
    (hNul : '\x00' ∉ other) (hSlot : t.slot (p.extend extension) = .ok (here, some name))
    (hSize : Text.byteSize (p.extend other).text ≤ pathLimit) :
    t.slot (p.extend other) = .ok (here, some (p.extend other).fileName) := by
  obtain ⟨above, last, hSteps⟩ := p.exists_steps_extend
  obtain ⟨hAdmissible, above', hSteps', hWalk, hHere, -⟩ := slot_eq_iff.mp hSlot
  rw [hSteps extension h] at hSteps'
  obtain ⟨rfl, -⟩ := List.append_inj' hSteps' rfl
  have hName : (p.extend other).fileName = last ++ other := by
    rw [fileName, hSteps other hOther]
    simp
  rw [admissible_eq_ok_iff, extend, List.mem_append, not_or] at hAdmissible
  refine slot_eq_iff.mpr ⟨admissible_eq_ok_iff.mpr ⟨?_, ?_, hSize⟩, above, ?_, hWalk, hHere, ?_, ?_⟩
  · rw [extend, List.mem_append, not_or]
    exact ⟨hAdmissible.1.1, hNul⟩
  · exact append_ne hOther p.text (by decide)
  · rw [hName, hSteps other hOther]
  · rw [hName]
    exact append_ne hOther last (by decide)
  · rw [hName]
    exact append_ne hOther last (by decide)

theorem fileName_extend_ne (h : IsExtension extension) (hOther : IsExtension other)
    (hne : other ≠ extension) (p : Path) :
    (p.extend other).fileName ≠ (p.extend extension).fileName := by
  obtain ⟨above, last, hSteps⟩ := p.exists_steps_extend
  rw [fileName, fileName, hSteps other hOther, hSteps extension h]
  simpa using hne

/-- Beside a file that has just been written, the directory for another one is there. -/
theorem withParent_extend_of_write {grown new : FileTree} {text : Text} (h : IsExtension extension)
    (hOther : IsExtension other) (hGrown : t.withParent (p.extend extension) = some grown)
    (hWrite : grown.write (p.extend extension) text = .ok new) :
    new.withParent (p.extend other) = some new := by
  obtain ⟨above, hAbove⟩ := p.exists_parent_extend
  rw [withParent, hAbove extension h] at hGrown
  rw [withParent, hAbove other hOther]
  apply withDirectory_of_isDirectory
  exact isDirectory_of_kept (kept_of_write hWrite) (grows_of_withDirectory hGrown).2

/-- Beside a file that has just been written, another one cannot be written exactly if it is there
or its path or its name is too long. -/
theorem writeNew?_extend_eq_none_iff {grown new : FileTree} {text otherText : Text}
    (h : IsExtension extension) (hOther : IsExtension other) (hne : other ≠ extension)
    (hNul : '\x00' ∉ other) (hGrown : t.withParent (p.extend extension) = some grown)
    (hWrite : grown.write (p.extend extension) text = .ok new) :
    new.writeNew? (p.extend other) otherText = none ↔
      grown.at? (p.extend other) ≠ none ∨ pathLimit < Text.byteSize (p.extend other).text ∨
        nameLimit < Text.byteSize (p.extend other).fileName := by
  obtain ⟨here, name, hSlot, -, -, hDirectory, hNew⟩ := exists_of_write hWrite
  have hKept : Kept grown new := kept_of_write hWrite
  have hParent := withParent_extend_of_write h hOther hGrown hWrite
  by_cases hSize : Text.byteSize (p.extend other).text ≤ pathLimit
  · have hPlace := slot_extend h hOther hNul hSlot hSize
    have hPlace' := slot_of_kept hKept hPlace
    have hWants := wantsDirectory_extend hOther p
    -- What was written last has another name, so the place of this file is as it was before.
    have hApart : here ++ [(p.extend other).fileName] ≠ here ++ [name] := by
      rw [← fileName_of_slot hSlot]
      simpa using fileName_extend_ne h hOther hne p
    have hSame : new.lookup (here ++ [(p.extend other).fileName]) =
        grown.lookup (here ++ [(p.extend other).fileName]) := by
      rw [hNew, lookup_put_of_ne hApart]
    rw [writeNew?, hParent, Option.bind_some, at?_of_slot hPlace (Or.inl hWants),
      at?_of_slot hPlace' (Or.inl hWants), write_of_slot hPlace', hSame, hWants]
    by_cases hLong : nameLimit < Text.byteSize (p.extend other).fileName
    · simp [hLong, Except.toOption]
    · cases grown.lookup (here ++ [(p.extend other).fileName]) <;>
        simp [hLong, Nat.not_lt.mpr hSize, Except.toOption]
  · have hNone : new.writeNew? (p.extend other) otherText = none := by
      refine Option.eq_none_iff_forall_ne_some.mpr fun last hLast => hSize ?_
      obtain ⟨-, parent, -, hLastWrite⟩ := writeNew?_eq_some_iff.mp hLast
      obtain ⟨here, name, hPlace, -⟩ := exists_of_write hLastWrite
      exact (admissible_eq_ok_iff.mp (slot_eq_iff.mp hPlace).1).2.2
    exact iff_of_true hNone (Or.inr (Or.inl (Nat.lt_of_not_le hSize)))

end FileTree

end Scaffold
