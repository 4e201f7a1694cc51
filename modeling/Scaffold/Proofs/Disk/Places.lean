import Scaffold.Proofs.Disk.Siblings

/-! Where paths lead. A tree has no links, so the place that a path reaches can be read off its steps,
and trees in which the same places are taken and the same of them are directories agree on every
path. -/

namespace Scaffold

theorem Text.notMem_of_mem_splitOn {c : Char} {t piece : Text} (h : piece ∈ t.splitOn c) :
    c ∉ piece := by
  induction t generalizing piece with
  | nil =>
      rw [List.splitOn_nil, List.mem_singleton] at h
      simp [h]
  | cons d rest ih =>
      rw [List.splitOn_cons_eq_if_modifyHead] at h
      obtain ⟨first, more, hRest⟩ := List.exists_cons_of_ne_nil (List.splitOn_ne_nil c rest)
      rw [hRest] at h ih
      split_ifs at h with hEq
      · rcases List.mem_cons.mp h with rfl | hMem
        · exact List.not_mem_nil
        · exact ih hMem
      · rcases List.mem_cons.mp h with rfl | hMem
        · rw [List.mem_cons, not_or]
          exact ⟨fun hSame => hEq (by simp [hSame]), ih (List.mem_cons_self ..)⟩
        · exact ih (List.mem_cons_of_mem _ hMem)

namespace Path

/-- The place that the steps of the path lead to. -/
def location (p : Path) : Location :=
  p.steps.foldl follow []

/-- The steps that do not stay in their directory. -/
def moves (steps : List Text) : List Text :=
  steps.filter (· ≠ stay)

@[simp] theorem moves_append (steps more : List Text) :
    moves (steps ++ more) = moves steps ++ moves more :=
  List.filter_append ..

@[simp] theorem moves_stay : moves [stay] = [] := rfl

theorem moves_of_ne {step : Text} (h : step ≠ stay) : moves [step] = [step] := by
  simp [moves, h]

/-- A name that is no absolute path adds its steps to those of the base. -/
theorem steps_join (base : Path) {name : Text} (h : name.head? ≠ some '/') :
    (base.join name).steps = base.steps ++ (Path.mk name).steps := by
  rw [join]
  split_ifs with hNew hSlash
  · have hEmpty : base.text = [] := hNew.resolve_left h
    simp [steps, hEmpty]
  · obtain ⟨before, hText⟩ := List.getLast?_eq_some_iff.mp hSlash
    simp only [steps, hText, List.append_assoc, List.singleton_append,
      List.splitOn_append_cons_self, List.filter_append]
    simp
  · simp only [steps, List.splitOn_append_cons_self, List.filter_append]

end Path

namespace FileTree

variable {t t' : FileTree} {p : Path} {here l : Location} {name text : Text}

theorem step_eq_ok_iff :
    t.step here name = .ok l ↔ t.lookup here = some .directory ∧ l = Path.follow here name ∧
      (name = Path.stay ∨ name = Path.up ∨
        Text.byteSize name ≤ nameLimit ∧ t.lookup (here ++ [name]) ≠ none) := by
  rw [step, Path.follow]
  by_cases hHere : t.lookup here = some .directory
  · rw [if_neg (not_not.mpr hHere)]
    split_ifs with hStay hUp hLong hNone
    · simp [hHere, hStay, eq_comm]
    · simp [hHere, hUp, eq_comm]
    · simp [hStay, hUp, Nat.not_le.mpr hLong]
    · simp [hStay, hUp, hNone]
    · simp [hHere, hNone, Nat.le_of_not_lt hLong, eq_comm]
  · simp [hHere]

theorem walk_append_eq_ok_iff {steps : List Text} {last : Text} :
    t.walk (steps ++ [last]) = .ok l ↔
      ∃ here, t.walk steps = .ok here ∧ t.step here last = .ok l := by
  rw [walk_append_singleton]
  cases t.walk steps <;> simp [Except.bind]

theorem eq_of_walk {steps : List Text} (h : t.walk steps = .ok l) :
    l = steps.foldl Path.follow [] := by
  induction steps using List.reverseRecOn generalizing l with
  | nil => exact (Except.ok.inj h).symm
  | append_singleton steps last ih =>
      obtain ⟨here, hBefore, hLast⟩ := walk_append_eq_ok_iff.mp h
      obtain ⟨-, hFollow, -⟩ := step_eq_ok_iff.mp hLast
      rw [hFollow, ih hBefore, List.foldl_append]
      rfl

/-- Steps that stay lead nowhere else, as long as they are made in a directory. -/
theorem walk_moves {steps : List Text} (h : t.lookup l = some .directory) :
    t.walk (Path.moves steps) = .ok l ↔ t.walk steps = .ok l := by
  induction steps using List.reverseRecOn generalizing l with
  | nil => rfl
  | append_singleton steps last ih =>
      rw [Path.moves_append, walk_append_eq_ok_iff]
      by_cases hStay : last = Path.stay
      · have hStep {here : Location} : t.step here last = .ok l ↔ here = l := by
          rw [step_eq_ok_iff, hStay, Path.follow, if_pos rfl]
          constructor
          · rintro ⟨-, rfl, -⟩
            rfl
          · rintro rfl
            exact ⟨h, rfl, Or.inl rfl⟩
        rw [hStay, Path.moves_stay, List.append_nil, ih h, ← hStay]
        simp [hStep]
      · rw [Path.moves_of_ne hStay, walk_append_eq_ok_iff]
        apply exists_congr
        intro here
        apply and_congr_left
        intro hStep
        exact ih (step_eq_ok_iff.mp hStep).1

/-- All places above one that is reached are directories. -/
theorem lookup_of_walk {steps : List Text} (h : t.walk steps = .ok l) {m : Location}
    (hPrefix : m <+: l) (hne : m ≠ l) : t.lookup m = some .directory := by
  induction steps using List.reverseRecOn generalizing l m with
  | nil =>
      obtain rfl : [] = l := Except.ok.inj h
      exact absurd (List.prefix_nil.mp hPrefix) hne
  | append_singleton steps last ih =>
      obtain ⟨here, hBefore, hLast⟩ := walk_append_eq_ok_iff.mp h
      obtain ⟨hHere, rfl, -⟩ := step_eq_ok_iff.mp hLast
      have hAbove {m : Location} (hm : m <+: here) : t.lookup m = some .directory := by
        by_cases hEq : m = here
        · rwa [hEq]
        · exact ih hBefore hm hEq
      rw [Path.follow] at hPrefix hne
      split_ifs at hPrefix hne
      · exact hAbove hPrefix
      · exact hAbove (hPrefix.trans (List.dropLast_prefix here))
      · rcases List.prefix_concat_iff.mp hPrefix with hEq | hm
        · exact absurd hEq hne
        · exact hAbove hm

theorem locate_eq_ok_iff :
    t.locate p = .ok l ↔ admissible p = .ok () ∧ t.walk p.steps = .ok l ∧
      (wantsDirectory p → t.lookup l = some .directory) := by
  rw [locate]
  cases admissible p with
  | error fault => simp [bind, Except.bind]
  | ok _ =>
      cases t.walk p.steps with
      | error fault => simp [bind, Except.bind]
      | ok reached =>
          simp only [bind, Except.bind]
          split_ifs with hOther
          · apply iff_of_false
            · intro hThrown
              cases hThrown
            · rintro ⟨-, hReached, hWants⟩
              obtain rfl := Except.ok.inj hReached
              exact hOther.2 (hWants hOther.1)
          · simp only [pure, Except.pure, true_and, Except.ok.injEq]
            constructor
            · rintro rfl
              exact ⟨rfl, fun hWants => by_contra fun hFile => hOther ⟨hWants, hFile⟩⟩
            · exact And.left

theorem eq_location_of_locate (h : t.locate p = .ok l) : l = p.location :=
  eq_of_walk (locate_eq_ok_iff.mp h).2.1

theorem location_of_slot (hSlot : t.slot p = .ok (here, some name)) :
    p.location = here ++ [name] := by
  obtain ⟨-, above, hSteps, hWalk, -, hStay, hUp⟩ := slot_eq_iff.mp hSlot
  rw [Path.location, hSteps, List.foldl_append, ← eq_of_walk hWalk]
  simp [Path.follow, hStay, hUp]

/-- A written file changes nothing elsewhere than where its path leads. -/
theorem lookup_write_of_ne {new : FileTree} (h : t.write p text = .ok new) (hl : l ≠ p.location) :
    new.lookup l = t.lookup l := by
  obtain ⟨here, name, hSlot, -, -, -, rfl⟩ := exists_of_write h
  rw [location_of_slot hSlot] at hl
  exact lookup_put_of_ne hl _

theorem at?_of_locate (h : t.locate p = .ok l) : t.at? p = t.lookup l := by
  rw [at?, h]

theorem at?_eq_some_iff {e : Entry} :
    t.at? p = some e ↔ ∃ l, t.locate p = .ok l ∧ t.lookup l = some e := by
  rw [at?]
  cases t.locate p <;> simp

/-- A path that names a file has a slot, and the file stands in it. -/
theorem exists_slot_of_file {content : Content} (hLocate : t.locate p = .ok l)
    (hFile : t.lookup l = some (.file content)) :
    ∃ here name, t.slot p = .ok (here, some name) ∧ wantsDirectory p = false ∧
      Text.byteSize name ≤ nameLimit ∧ l = here ++ [name] := by
  obtain ⟨hAdmissible, hWalk, hWants⟩ := locate_eq_ok_iff.mp hLocate
  have hPlain : wantsDirectory p = false := by
    rw [hFile] at hWants
    simpa using hWants
  rcases List.eq_nil_or_concat' p.steps with hNone | ⟨above, last, hSteps⟩
  · rw [hNone] at hWalk
    obtain rfl : [] = l := Except.ok.inj hWalk
    cases hFile
  · rw [hSteps] at hWalk
    obtain ⟨here, hAbove, hLast⟩ := walk_append_eq_ok_iff.mp hWalk
    obtain ⟨hHere, hFollow, hName⟩ := step_eq_ok_iff.mp hLast
    have hOther {m : Location} (hm : m <+: here) : l ≠ m := by
      rintro rfl
      by_cases hEq : l = here
      · rw [hEq, hHere] at hFile
        cases hFile
      · rw [lookup_of_walk hAbove hm hEq] at hFile
        cases hFile
    rw [Path.follow] at hFollow
    split_ifs at hFollow with hStay hUp
    · exact absurd hFollow (hOther (List.prefix_refl here))
    · exact absurd hFollow (hOther (List.dropLast_prefix here))
    · obtain ⟨hSize, -⟩ := (hName.resolve_left hStay).resolve_left hUp
      exact ⟨here, last, slot_eq_iff.mpr ⟨hAdmissible, above, hSteps, hAbove, hHere, hStay, hUp⟩,
        hPlain, hSize, hFollow⟩

/-- The same places are taken, and the same of them are directories. -/
structure SameShape (t t' : FileTree) : Prop where
  none_iff : ∀ l, t'.lookup l = none ↔ t.lookup l = none
  directory_iff : ∀ l, t'.lookup l = some .directory ↔ t.lookup l = some .directory

theorem SameShape.refl (t : FileTree) : SameShape t t :=
  ⟨fun _ => Iff.rfl, fun _ => Iff.rfl⟩

theorem SameShape.locate_eq (h : SameShape t t') (p : Path) : t'.locate p = t.locate p := by
  have hStep : t'.step = t.step := by
    funext here name
    simp only [step, h.none_iff, h.directory_iff, ne_eq]
  rw [locate, locate, walk, walk, hStep]
  simp only [h.directory_iff, ne_eq]

theorem sameShape_put {content new : Content} (h : t.lookup l = some (.file content)) :
    SameShape t (t.put l (.file new)) := by
  have hSelf : (t.put l (.file new)).lookup l = some (.file new) :=
    lookup_put_self_of_ne (by simp [h]) _
  constructor <;> intro m <;> by_cases hm : m = l
  · simp [hm, hSelf, h]
  · rw [lookup_put_of_ne hm]
  · simp [hm, hSelf, h]
  · rw [lookup_put_of_ne hm]

end FileTree

end Scaffold
