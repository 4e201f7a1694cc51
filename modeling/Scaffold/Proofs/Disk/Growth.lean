import Mathlib.Data.List.Induction
import Scaffold.Disk.FileTree
import Scaffold.Proofs.Runs

/-! How the operations on a file tree change it. New directories come at places where nothing was,
and a written file comes at one place that is no directory. Both leave every directory what it is, so
a place that is reached by a path is still reached by it afterwards. -/

namespace Scaffold.FileTree

/-- The same files with the same contents, whatever directories there are. -/
def SameFiles (t t' : FileTree) : Prop :=
  ∀ l content, t'.lookup l = some (.file content) ↔ t.lookup l = some (.file content)

/-- The second tree has more directories and is otherwise the same. -/
def Grows (t t' : FileTree) : Prop :=
  ∀ l, t'.lookup l = t.lookup l ∨ t.lookup l = none ∧ t'.lookup l = some .directory

/-- Nothing has gone, and directories are still directories. -/
structure Kept (t t' : FileTree) : Prop where
  present : ∀ {l}, t.lookup l ≠ none → t'.lookup l ≠ none
  directory : ∀ {l}, t.lookup l = some .directory → t'.lookup l = some .directory

section Relations

variable {t t' t'' : FileTree} {l : Location}

theorem SameFiles.symm (h : SameFiles t t') : SameFiles t' t :=
  fun l content => (h l content).symm

theorem SameFiles.trans (h : SameFiles t t') (h' : SameFiles t' t'') : SameFiles t t'' :=
  fun l content => (h' l content).trans (h l content)

theorem Grows.refl (t : FileTree) : Grows t t :=
  fun _ => Or.inl rfl

theorem Grows.trans (h : Grows t t') (h' : Grows t' t'') : Grows t t'' := by
  intro l
  rcases h' l with hSame | ⟨hNone, hNew⟩
  · rw [hSame]
    exact h l
  · rcases h l with hSame | ⟨-, hDirectory⟩
    · exact Or.inr ⟨hSame ▸ hNone, hNew⟩
    · rw [hNone] at hDirectory
      cases hDirectory

theorem Grows.kept (h : Grows t t') : Kept t t' where
  present {l} hSome := by
    rcases h l with hSame | ⟨hNone, -⟩
    · rwa [hSame]
    · exact absurd hNone hSome
  directory {l} hDirectory := by
    rcases h l with hSame | ⟨-, hNew⟩
    · rwa [hSame]
    · exact hNew

theorem Kept.trans (h : Kept t t') (h' : Kept t' t'') : Kept t t'' where
  present hSome := h'.present (h.present hSome)
  directory hDirectory := h'.directory (h.directory hDirectory)

theorem Grows.sameFiles (h : Grows t t') : SameFiles t t' := by
  intro l content
  rcases h l with hSame | ⟨hNone, hNew⟩
  · rw [hSame]
  · simp [hNone, hNew]

theorem lookup_put_self (hl : l ≠ []) (e : Entry) : (t.put l e).lookup l = some e := by
  rw [lookup_put _ _ _ _ hl, if_pos rfl]

theorem lookup_put_of_ne {m : Location} (h : m ≠ l) (e : Entry) :
    (t.put l e).lookup m = t.lookup m := by
  by_cases hm : m = []
  · rw [hm, lookup_root, lookup_root]
  · rw [lookup_put _ _ _ _ hm, if_neg h]

/-- Only the root directory cannot be written over. -/
theorem lookup_put_self_of_ne (h : t.lookup l ≠ some .directory) (e : Entry) :
    (t.put l e).lookup l = some e := by
  apply lookup_put_self
  rintro rfl
  exact h rfl

theorem grows_put (h : t.lookup l = none) : Grows t (t.put l .directory) := by
  intro m
  by_cases hm : m = l
  · exact Or.inr ⟨hm ▸ h, by rw [hm, lookup_put_self_of_ne (by simp [h])]⟩
  · exact Or.inl (lookup_put_of_ne hm _)

theorem kept_put (h : t.lookup l ≠ some .directory) (content : Content) :
    Kept t (t.put l (.file content)) where
  present {m} hSome := by
    by_cases hm : m = l
    · rw [hm, lookup_put_self_of_ne h]
      exact Option.some_ne_none _
    · rwa [lookup_put_of_ne hm]
  directory {m} hDirectory := by
    rw [lookup_put_of_ne, hDirectory]
    rintro rfl
    exact h hDirectory

end Relations

section Walks

variable {t t' : FileTree} {p : Path} {here : Location} {name : Text}

theorem step_of_kept (h : Kept t t') {l : Location} (hStep : t.step here name = .ok l) :
    t'.step here name = .ok l := by
  rw [step] at hStep ⊢
  by_cases hHere : t.lookup here = some .directory
  · rw [if_neg (not_not.mpr hHere)] at hStep
    rw [if_neg (not_not.mpr (h.directory hHere))]
    -- Steps to the same directory and up need no entry; the one of any other step is still there.
    split_ifs at hStep ⊢
    · exact hStep
    · exact hStep
    · exact absurd ‹_› (h.present ‹_›)
    · exact hStep
  · rw [if_pos hHere] at hStep
    cases hStep

theorem walk_append_singleton (t : FileTree) (steps : List Text) (last : Text) :
    t.walk (steps ++ [last]) = (t.walk steps).bind fun here => t.step here last :=
  foldlM_append_singleton t.step [] steps last

theorem walk_of_kept (h : Kept t t') {steps : List Text} {l : Location}
    (hWalk : t.walk steps = .ok l) : t'.walk steps = .ok l := by
  induction steps using List.reverseRecOn generalizing l with
  | nil => exact hWalk
  | append_singleton steps last ih =>
      rw [walk_append_singleton] at hWalk ⊢
      cases hBefore : t.walk steps with
      | error fault =>
          rw [hBefore] at hWalk
          cases hWalk
      | ok here =>
          rw [hBefore] at hWalk
          rw [ih hBefore]
          exact step_of_kept h hWalk

theorem slot_of_steps (hAdmissible : admissible p = .ok ()) {above : List Text} {last : Text}
    (hSteps : p.steps = above ++ [last]) :
    t.slot p = (t.walk above).bind fun here =>
      if t.lookup here = some .directory then
        .ok (here, if last = Path.stay ∨ last = Path.up then none else some last)
      else .error .notDirectory := by
  rw [slot, hAdmissible, hSteps, List.reverse_append, List.reverse_singleton]
  simp only [List.singleton_append, List.reverse_reverse]
  refine congrArg (t.walk above).bind (funext fun here => ?_)
  by_cases hHere : t.lookup here = some .directory
  · rw [if_neg (not_not.mpr hHere), if_pos hHere]
    rfl
  · rw [if_pos hHere, if_neg hHere]
    rfl

/-- The slot of a path is the directory that its other steps lead to. -/
theorem slot_eq_iff :
    t.slot p = .ok (here, some name) ↔ admissible p = .ok () ∧
      ∃ above, p.steps = above ++ [name] ∧ t.walk above = .ok here ∧
        t.lookup here = some .directory ∧ name ≠ Path.stay ∧ name ≠ Path.up := by
  constructor
  · intro hSlot
    cases hAdmissible : admissible p with
    | error fault =>
        rw [slot, hAdmissible] at hSlot
        cases hSlot
    | ok _ =>
        rcases List.eq_nil_or_concat' p.steps with hNone | ⟨above, last, hSteps⟩
        · rw [slot, hAdmissible, hNone] at hSlot
          cases hSlot
        · rw [slot_of_steps hAdmissible hSteps] at hSlot
          cases hWalk : t.walk above with
          | error fault =>
              rw [hWalk] at hSlot
              cases hSlot
          | ok l =>
              rw [hWalk] at hSlot
              simp only [Except.bind] at hSlot
              split_ifs at hSlot with hHere hIdle
              · cases hSlot
              · rw [not_or] at hIdle
                cases hSlot
                exact ⟨rfl, above, hSteps, hWalk, hHere, hIdle⟩
  · rintro ⟨hAdmissible, above, hSteps, hWalk, hHere, hStay, hUp⟩
    rw [slot_of_steps hAdmissible hSteps, hWalk]
    simp [Except.bind, hHere, hStay, hUp]

theorem slot_of_kept (h : Kept t t') (hSlot : t.slot p = .ok (here, some name)) :
    t'.slot p = .ok (here, some name) := by
  obtain ⟨hAdmissible, above, hSteps, hWalk, hHere, hName⟩ := slot_eq_iff.mp hSlot
  exact slot_eq_iff.mpr ⟨hAdmissible, above, hSteps, walk_of_kept h hWalk, h.directory hHere, hName⟩

/-- What a path names is what stands in its slot. -/
theorem at?_of_slot (hSlot : t.slot p = .ok (here, some name))
    (hEnd : wantsDirectory p = false ∨ t.lookup (here ++ [name]) = some .directory) :
    t.at? p =
      if nameLimit < Text.byteSize name then none else t.lookup (here ++ [name]) := by
  obtain ⟨hAdmissible, above, hSteps, hWalk, hHere, hStay, hUp⟩ := slot_eq_iff.mp hSlot
  have hLocate : t.locate p = (t.step here name).bind fun l =>
      if wantsDirectory p ∧ t.lookup l ≠ some .directory then .error .notDirectory else .ok l := by
    rw [locate, hAdmissible, hSteps, walk_append_singleton, hWalk]
    refine congrArg (t.step here name).bind (funext fun l => ?_)
    split <;> rfl
  have hStep : t.step here name =
      if nameLimit < Text.byteSize name then .error .nameTooLong
      else if t.lookup (here ++ [name]) = none then .error .notFound
      else .ok (here ++ [name]) := by
    rw [step, if_neg (not_not.mpr hHere), if_neg hStay, if_neg hUp]
  rw [at?, hLocate, hStep]
  by_cases hLong : nameLimit < Text.byteSize name
  · rw [if_pos hLong, if_pos hLong]
    rfl
  · rw [if_neg hLong, if_neg hLong]
    by_cases hNone : t.lookup (here ++ [name]) = none
    · rw [if_pos hNone, hNone]
      rfl
    · rw [if_neg hNone]
      simp only [Except.bind]
      rw [if_neg]
      rintro ⟨hWants, hOther⟩
      rcases hEnd with hPlain | hDirectory
      · simp [hPlain] at hWants
      · exact hOther hDirectory

theorem isDirectory_iff :
    t.isDirectory p ↔
      admissible p = .ok () ∧ ∃ l, t.walk p.steps = .ok l ∧ t.lookup l = some .directory := by
  rw [isDirectory, beq_iff_eq, at?, locate]
  cases admissible p with
  | error fault => simp [bind, Except.bind]
  | ok _ =>
      cases t.walk p.steps with
      | error fault => simp [bind, Except.bind]
      | ok l =>
          by_cases hDirectory : t.lookup l = some .directory
          · simp [bind, Except.bind, pure, Except.pure, hDirectory]
          · simp only [bind, Except.bind]
            split_ifs <;> simp_all [pure, Except.pure]

theorem isDirectory_of_kept (h : Kept t t') (hDirectory : t.isDirectory p) : t'.isDirectory p := by
  obtain ⟨hAdmissible, l, hWalk, hl⟩ := isDirectory_iff.mp hDirectory
  exact isDirectory_iff.mpr ⟨hAdmissible, l, walk_of_kept h hWalk, h.directory hl⟩

end Walks

section Operations

variable {t made new : FileTree} {p : Path} {text : Text} {here : Location} {name : Text}

theorem makeDirectory_of_slot (hSlot : t.slot p = .ok (here, some name)) :
    t.makeDirectory p =
      if nameLimit < Text.byteSize name then .error .nameTooLong
      else if t.lookup (here ++ [name]) = none then .ok (t.put (here ++ [name]) .directory)
      else .error .exists := by
  rw [makeDirectory, hSlot]
  simp only [bind, Except.bind, child]
  cases t.lookup (here ++ [name]) <;> split_ifs <;> first
    | rfl
    | simp_all

theorem write_of_slot (hSlot : t.slot p = .ok (here, some name)) :
    t.write p text =
      if wantsDirectory p then .error .isDirectory
      else if nameLimit < Text.byteSize name then .error .nameTooLong
      else if t.lookup (here ++ [name]) = some .directory then .error .isDirectory
      else .ok (t.put (here ++ [name]) (.file (.text text))) := by
  rw [write, hSlot]
  simp only [bind, Except.bind, child]
  rcases t.lookup (here ++ [name]) with _ | _ | content <;> split_ifs <;> first
    | rfl
    | simp_all

theorem exists_of_makeDirectory (h : t.makeDirectory p = .ok made) :
    ∃ here name, t.slot p = .ok (here, some name) ∧ Text.byteSize name ≤ nameLimit ∧
      t.lookup (here ++ [name]) = none ∧ made = t.put (here ++ [name]) .directory := by
  cases hSlot : t.slot p with
  | error fault =>
      rw [makeDirectory, hSlot] at h
      cases h
  | ok place =>
      obtain ⟨here, _ | name⟩ := place
      · rw [makeDirectory, hSlot] at h
        cases h
      · rw [makeDirectory_of_slot hSlot] at h
        split_ifs at h with hLong hNone
        exact ⟨here, name, rfl, Nat.le_of_not_lt hLong, hNone, (Except.ok.inj h).symm⟩

theorem exists_of_write (h : t.write p text = .ok new) :
    ∃ here name, t.slot p = .ok (here, some name) ∧ wantsDirectory p = false ∧
      Text.byteSize name ≤ nameLimit ∧ t.lookup (here ++ [name]) ≠ some .directory ∧
      new = t.put (here ++ [name]) (.file (.text text)) := by
  cases hSlot : t.slot p with
  | error fault =>
      rw [write, hSlot] at h
      cases h
  | ok place =>
      obtain ⟨here, _ | name⟩ := place
      · rw [write, hSlot] at h
        cases h
      · rw [write_of_slot hSlot] at h
        split_ifs at h with hWants hLong hDirectory
        exact ⟨here, name, rfl, Bool.eq_false_iff.mpr hWants, Nat.le_of_not_lt hLong, hDirectory,
          (Except.ok.inj h).symm⟩

theorem at?_eq_of_write (h : t.write p text = .ok new) :
    ∃ l, l ≠ [] ∧ t.at? p = t.lookup l ∧ t.lookup l ≠ some .directory ∧
      new = t.put l (.file (.text text)) := by
  obtain ⟨here, name, hSlot, hWants, hName, hOther, rfl⟩ := exists_of_write h
  refine ⟨here ++ [name], by simp, ?_, hOther, rfl⟩
  rw [at?_of_slot hSlot (Or.inl hWants), if_neg (Nat.not_lt.mpr hName)]

/-- A written file is a change unless the file held the text before. -/
theorem sameFiles_write_iff (h : t.write p text = .ok new) :
    SameFiles t new ↔ t.at? p = some (.file (.text text)) := by
  obtain ⟨l, hl, hAt, -, rfl⟩ := at?_eq_of_write h
  rw [hAt]
  constructor
  · intro hSame
    exact (hSame l (.text text)).mp (lookup_put_self hl _)
  · intro hHeld m content
    by_cases hm : m = l
    · rw [hm, lookup_put_self hl, hHeld]
    · rw [lookup_put_of_ne hm]

theorem kept_of_write (h : t.write p text = .ok new) : Kept t new := by
  obtain ⟨l, -, -, hOther, rfl⟩ := at?_eq_of_write h
  exact kept_put hOther _

theorem grows_of_makeDirectory (h : t.makeDirectory p = .ok made) :
    Grows t made ∧ made.isDirectory p := by
  obtain ⟨here, name, hSlot, hName, hNone, rfl⟩ := exists_of_makeDirectory h
  have hGrows := grows_put hNone
  have hNew : (t.put (here ++ [name]) .directory).lookup (here ++ [name]) = some .directory :=
    lookup_put_self (by simp) _
  refine ⟨hGrows, ?_⟩
  rw [isDirectory, at?_of_slot (slot_of_kept hGrows.kept hSlot) (Or.inr hNew),
    if_neg (Nat.not_lt.mpr hName), hNew]
  rfl

/-- Making directories adds directories, also where it fails in the end. -/
theorem grows_makeDirectories (t : FileTree) (ps : List Path) : Grows t (t.makeDirectories ps).1 := by
  induction ps with
  | nil => exact Grows.refl t
  | cons p above ih =>
      rw [makeDirectories]
      split
      · rename_i made hMade
        exact (grows_of_makeDirectory hMade).1
      · split
        · rename_i grown fault hAbove
          rwa [hAbove] at ih
        · rename_i grown hAbove
          rw [hAbove] at ih
          split
          · rename_i made hMade
            exact ih.trans (grows_of_makeDirectory hMade).1
          · exact ih
      · exact Grows.refl t

theorem isDirectory_of_makeDirectories {above : List Path}
    (h : (t.makeDirectories (p :: above)).2 = .ok ()) :
    (t.makeDirectories (p :: above)).1.isDirectory p := by
  rw [makeDirectories] at h ⊢
  split at h
  · rename_i made hMade
    exact (grows_of_makeDirectory hMade).2
  · split at h
    · cases h
    · split at h
      · rename_i made hMade
        exact (grows_of_makeDirectory hMade).2
      · split_ifs at h with hThere
        exact hThere
  · split_ifs at h with hThere
    exact hThere

end Operations

end Scaffold.FileTree
