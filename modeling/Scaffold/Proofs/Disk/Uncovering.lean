import Scaffold.Proofs.Disk.Places

/-! New files and the files that are there. A path is looked at before the directories for its file are
made. If it goes up again from a missing directory it names nothing then, and can name an old file
afterwards; these are the only files that a new one replaces. -/

namespace Scaffold

namespace FileTree

/-- Every file is still there and holds what it held. -/
def KeepsFiles (t t' : FileTree) : Prop :=
  ∀ l content, t.lookup l = some (.file content) → t'.lookup l = some (.file content)

/-- The path names nothing, but with its parent directory made it leads to a file at the location,
which holds something else than the text. -/
structure Uncovers (t : FileTree) (p : Path) (text : Text) (l : Location) : Prop where
  absent : t.at? p = none
  file : ∃ grown content, t.withParent p = some grown ∧ grown.locate p = .ok l ∧
    grown.lookup l = some (.file content) ∧ content ≠ .text text

variable {t t' grown new : FileTree} {p : Path} {text : Text} {l here : Location} {name : Text}
  {content : Content}

theorem KeepsFiles.refl (t : FileTree) : KeepsFiles t t :=
  fun _ _ => id

theorem KeepsFiles.trans {t'' : FileTree} (h : KeepsFiles t t') (h' : KeepsFiles t' t'') :
    KeepsFiles t t'' :=
  fun l content hFile => h' l content (h l content hFile)

theorem Grows.keepsFiles (h : Grows t t') : KeepsFiles t t' :=
  fun l content => (h.sameFiles l content).mpr

theorem locate_of_slot (hSlot : t.slot p = .ok (here, some name))
    (hWants : wantsDirectory p = false) (hName : Text.byteSize name ≤ nameLimit)
    (hSome : t.lookup (here ++ [name]) ≠ none) : t.locate p = .ok (here ++ [name]) := by
  obtain ⟨hAdmissible, above, hSteps, hWalk, hHere, hStay, hUp⟩ := slot_eq_iff.mp hSlot
  rw [locate_eq_ok_iff, hSteps, walk_append_eq_ok_iff]
  refine ⟨hAdmissible, ⟨here, hWalk, step_eq_ok_iff.mpr ⟨hHere, ?_, ?_⟩⟩, ?_⟩
  · rw [Path.follow, if_neg hStay, if_neg hUp]
  · exact Or.inr (Or.inr ⟨hName, hSome⟩)
  · intro hEnd
    rw [hWants] at hEnd
    cases hEnd

theorem at?_ne_none_of_kept (h : Kept t t') (hSome : t.at? p ≠ none) : t'.at? p ≠ none := by
  obtain ⟨e, hAt⟩ := Option.ne_none_iff_exists'.mp hSome
  obtain ⟨l, hLocate, hLookup⟩ := at?_eq_some_iff.mp hAt
  obtain ⟨hAdmissible, hWalk, hWants⟩ := locate_eq_ok_iff.mp hLocate
  have hPlace : t'.locate p = .ok l :=
    locate_eq_ok_iff.mpr ⟨hAdmissible, walk_of_kept h hWalk, fun hEnd => h.directory (hWants hEnd)⟩
  rw [at?_of_locate hPlace]
  apply h.present
  simp [hLookup]

theorem Uncovers.eq_location (h : Uncovers t p text l) : l = p.location := by
  obtain ⟨grown, content, -, hLocate, -⟩ := h.file
  exact eq_location_of_locate hLocate

/-- The new file is written, in place of the old one. -/
theorem Uncovers.exists_writeNew? (h : Uncovers t p text l) :
    ∃ new, t.writeNew? p text = some new ∧ new.lookup l = some (.file (.text text)) := by
  obtain ⟨grown, content, hGrown, hLocate, hFile, -⟩ := h.file
  obtain ⟨here, name, hSlot, hWants, hName, rfl⟩ := exists_slot_of_file hLocate hFile
  refine ⟨grown.put (here ++ [name]) (.file (.text text)), ?_, lookup_put_self (by simp) _⟩
  rw [writeNew?_eq_some_iff]
  refine ⟨h.absent, grown, hGrown, ?_⟩
  simp [write_of_slot hSlot, hWants, Nat.not_lt.mpr hName, hFile]

theorem Uncovers.exists_file (h : Uncovers t p text l) :
    ∃ content, t.lookup l = some (.file content) ∧ content ≠ .text text := by
  obtain ⟨grown, content, hGrown, -, hFile, hOther⟩ := h.file
  exact ⟨content, ((grows_of_withParent hGrown).sameFiles l content).mp hFile, hOther⟩

/-- Where the parent directory is there, nothing comes into sight. -/
theorem not_uncovers_of_withParent (h : t.withParent p = some t) : ¬ Uncovers t p text l := by
  rintro ⟨hAbsent, grown, content, hGrown, hLocate, hFile, -⟩
  obtain rfl := Option.some.inj (h.symm.trans hGrown)
  rw [at?_of_locate hLocate, hFile] at hAbsent
  cases hAbsent

/-- A new file replaces the files that it uncovers, and no other. -/
theorem lookup_writeNew?_iff (h : t.writeNew? p text = some new)
    (hFile : t.lookup l = some (.file content)) :
    new.lookup l = some (.file content) ↔ ¬ Uncovers t p text l := by
  obtain ⟨hAbsent, grown, hGrown, hWrite⟩ := writeNew?_eq_some_iff.mp h
  obtain ⟨here, name, hSlot, hWants, hName, -, rfl⟩ := exists_of_write hWrite
  have hHeld : grown.lookup l = some (.file content) :=
    (grows_of_withParent hGrown).keepsFiles l content hFile
  -- Only the file in the slot of the path can be lost.
  by_cases hl : l = here ++ [name]
  · subst hl
    rw [lookup_put_self (by simp)]
    constructor
    · intro hSame hUncovers
      obtain ⟨other, hOther, hne⟩ := hUncovers.exists_file
      rw [hFile, ← hSame] at hOther
      exact hne (Entry.file.inj (Option.some.inj hOther)).symm
    · intro hNot
      by_contra hne
      have hLocate := locate_of_slot hSlot hWants hName (by simp [hHeld])
      exact hNot ⟨hAbsent, grown, content, hGrown, hLocate, hHeld, fun hSame => hne (by rw [hSame])⟩
  · rw [lookup_put_of_ne hl, hHeld]
    apply iff_of_true rfl
    intro hUncovers
    obtain ⟨grown', -, hGrown', hLocate, -⟩ := hUncovers.file
    obtain rfl := Option.some.inj (hGrown.symm.trans hGrown')
    exact hl ((eq_location_of_locate hLocate).trans (location_of_slot hSlot))

/-- A tree that keeps the files once the new one is there keeps the old ones too, except those that
were uncovered. -/
theorem keepsFiles_iff_of_writeNew? (h : t.writeNew? p text = some new) (hKeeps : KeepsFiles new t') :
    KeepsFiles t t' ↔ ∀ l, ¬ Uncovers t p text l := by
  constructor
  · intro hAll l hUncovers
    obtain ⟨content, hFile, hOther⟩ := hUncovers.exists_file
    obtain ⟨written, hWritten, hNew⟩ := hUncovers.exists_writeNew?
    obtain rfl := Option.some.inj (h.symm.trans hWritten)
    have hSame := (hAll l content hFile).symm.trans (hKeeps l _ hNew)
    exact hOther (Entry.file.inj (Option.some.inj hSame))
  · intro hNone l content hFile
    exact hKeeps l content ((lookup_writeNew?_iff h hFile).mpr (hNone l))

/-- All places above the location are directories. -/
def Rooted (t : FileTree) (l : Location) : Prop :=
  ∀ m, m <+: l → m ≠ l → t.lookup m = some .directory

theorem Rooted.kept (hRooted : Rooted t l) (h : Kept t t') : Rooted t' l :=
  fun m hPrefix hne => h.directory (hRooted m hPrefix hne)

/-- Steps downwards that can be made once more directories are there can be made before, if they lead
to what was there. -/
theorem walk_of_grows (h : Grows t grown) {steps : List Text} (hDown : Path.up ∉ steps)
    (hWalk : grown.walk steps = .ok l) (hThere : t.lookup l ≠ none) (hRooted : Rooted t l) :
    t.walk steps = .ok l := by
  -- From the last step backwards, because what stands above a place is known from the place.
  induction steps using List.reverseRecOn generalizing l with
  | nil => exact hWalk
  | append_singleton steps last ih =>
      rw [List.mem_append, List.mem_singleton, not_or] at hDown
      obtain ⟨here, hBefore, hLast⟩ := walk_append_eq_ok_iff.mp hWalk
      obtain ⟨hHere, hFollow, hName⟩ := step_eq_ok_iff.mp hLast
      rw [walk_append_eq_ok_iff]
      by_cases hStay : last = Path.stay
      · rw [Path.follow, if_pos hStay] at hFollow
        subst hFollow
        have hOld : t.lookup l = some .directory := by
          rcases h l with hSame | ⟨hNone, -⟩
          · rwa [← hSame]
          · exact absurd hNone hThere
        refine ⟨l, ih hDown.1 hBefore hThere hRooted, step_eq_ok_iff.mpr ⟨hOld, ?_, Or.inl hStay⟩⟩
        rw [Path.follow, if_pos hStay]
      · have hUp : last ≠ Path.up := fun hEq => hDown.2 hEq.symm
        rw [Path.follow, if_neg hStay, if_neg hUp] at hFollow
        subst hFollow
        have hAbove : t.lookup here = some .directory :=
          hRooted here (List.prefix_append here [last]) (by simp)
        have hRootedAbove : Rooted t here := by
          intro m hPrefix hne
          apply hRooted m (hPrefix.trans (List.prefix_append here [last]))
          rintro rfl
          have hLength := hPrefix.length_le
          rw [List.length_append, List.length_singleton] at hLength
          omega
        refine ⟨here, ih hDown.1 hBefore (by simp [hAbove]) hRootedAbove,
          step_eq_ok_iff.mpr ⟨hAbove, ?_, Or.inr (Or.inr ⟨?_, hThere⟩)⟩⟩
        · rw [Path.follow, if_neg hStay, if_neg hUp]
        · exact ((hName.resolve_left hStay).resolve_left hUp).1

/-- Without steps upwards a path uncovers no file that stands in directories. -/
theorem not_uncovers_of_down (hDown : Path.up ∉ p.steps) (hRooted : Rooted t l) :
    ¬ Uncovers t p text l := by
  intro hUncovers
  obtain ⟨old, hOld, -⟩ := hUncovers.exists_file
  obtain ⟨grown, content, hGrown, hLocate, hFile, -⟩ := hUncovers.file
  obtain ⟨here, name, hSlot, hWants, -⟩ := exists_slot_of_file hLocate hFile
  obtain ⟨hAdmissible, hWalk, -⟩ := locate_eq_ok_iff.mp hLocate
  have hBefore := walk_of_grows (grows_of_withParent hGrown) hDown hWalk (by simp [hOld]) hRooted
  have hPlace : t.locate p = .ok l := by
    rw [locate_eq_ok_iff, hWants]
    exact ⟨hAdmissible, hBefore, by simp⟩
  have hAbsent := hUncovers.absent
  rw [at?_of_locate hPlace, hOld] at hAbsent
  cases hAbsent

end FileTree

namespace Files

open FileTree

variable {p : Path} {text : Text} {t : FileTree} {l : Location} {content : Content}

/-- A new file keeps an old one unless it uncovers it, whether it is written or not. -/
theorem lookup_onDisk_writeNew_iff (hFile : t.lookup l = some (.file content)) :
    ((writeNew p text false).onDisk t).2.lookup l = some (.file content) ↔
      ¬ Uncovers t p text l := by
  rcases onDisk_writeNew p text t with ⟨new, hNew, hRun⟩ | ⟨hNone, failure, grown, hRun, hGrows⟩
  · rw [hRun]
    exact lookup_writeNew?_iff hNew hFile
  · rw [hRun]
    apply iff_of_true (hGrows.keepsFiles l content hFile)
    intro hUncovers
    obtain ⟨new, hNew, -⟩ := hUncovers.exists_writeNew?
    rw [hNone] at hNew
    cases hNew

theorem kept_onDisk_writeNew (p : Path) (text : Text) (t : FileTree) :
    Kept t ((writeNew p text false).onDisk t).2 := by
  rcases onDisk_writeNew p text t with ⟨new, hNew, hRun⟩ | ⟨-, failure, grown, hRun, hGrows⟩
  · rw [hRun]
    obtain ⟨-, grown, hGrown, hWrite⟩ := writeNew?_eq_some_iff.mp hNew
    exact (grows_of_withParent hGrown).kept.trans (kept_of_write hWrite)
  · rw [hRun]
    exact hGrows.kept

/-- No file changes elsewhere than where the path leads. -/
theorem lookup_onDisk_writeNew_of_ne (hl : l ≠ p.location) :
    ((writeNew p text false).onDisk t).2.lookup l = some (.file content) ↔
      t.lookup l = some (.file content) := by
  rcases onDisk_writeNew p text t with ⟨new, hNew, hRun⟩ | ⟨-, failure, grown, hRun, hGrows⟩
  · rw [hRun]
    obtain ⟨-, grown, hGrown, hWrite⟩ := writeNew?_eq_some_iff.mp hNew
    rw [lookup_write_of_ne hWrite hl]
    exact (grows_of_withParent hGrown).sameFiles l content
  · rw [hRun]
    exact hGrows.sameFiles l content

end Files

end Scaffold
