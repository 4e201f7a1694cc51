import Scaffold.Proofs.Disk.OnDisk

namespace Scaffold

namespace FileTree

/-- The tree with the directory at the path, made with those that it needs if nothing is there. -/
def withDirectory (t : FileTree) (p : Path) : Option FileTree :=
  match t.kind? p with
  | none =>
    match t.makeDirectories p.ancestors with
    | (grown, .ok ()) => some grown
    | (_, .error _) => none
  | some .file => none
  | some .directory => some t

/-- The tree with the parent directory of the path. -/
def withParent (t : FileTree) (p : Path) : Option FileTree :=
  match p.parent? with
  | none => some t
  | some above => t.withDirectory above

/-- The tree with a new file at the path, where nothing is yet. -/
def writeNew? (t : FileTree) (p : Path) (text : Text) : Option FileTree :=
  if t.at? p = none then (t.withParent p).bind fun grown => (grown.write p text).toOption else none

variable {t grown new : FileTree} {p : Path} {text : Text}

theorem kind?_eq_none_iff : t.kind? p = none ↔ t.at? p = none :=
  Option.map_eq_none_iff

theorem kind?_eq_directory_iff : t.kind? p = some .directory ↔ t.isDirectory p := by
  rw [kind?, isDirectory, beq_iff_eq]
  rcases t.at? p with _ | _ | content <;> simp

theorem exists_ancestors_eq_cons (p : Path) : ∃ above, p.ancestors = p :: above := by
  rw [Path.ancestors, Path.ancestorsWithin]
  cases p.parent? with
  | none => exact ⟨[], rfl⟩
  | some above => exact ⟨_, rfl⟩

theorem grows_of_withDirectory (h : t.withDirectory p = some grown) :
    Grows t grown ∧ grown.isDirectory p := by
  rw [withDirectory] at h
  split at h
  · split at h
    · rename_i made hMade
      obtain rfl := Option.some.inj h
      obtain ⟨above, hAncestors⟩ := exists_ancestors_eq_cons p
      rw [hAncestors] at hMade
      have hGrows := grows_makeDirectories t (p :: above)
      have hThere : (t.makeDirectories (p :: above)).1.isDirectory p :=
        isDirectory_of_makeDirectories (by rw [hMade])
      rw [hMade] at hGrows hThere
      exact ⟨hGrows, hThere⟩
    · cases h
  · cases h
  · rename_i hKind
    obtain rfl := Option.some.inj h
    exact ⟨Grows.refl t, kind?_eq_directory_iff.mp hKind⟩

theorem withDirectory_of_isDirectory (h : t.isDirectory p) : t.withDirectory p = some t := by
  rw [withDirectory, kind?_eq_directory_iff.mpr h]

theorem writeNew?_eq_some_iff :
    t.writeNew? p text = some new ↔
      t.at? p = none ∧ ∃ grown, t.withParent p = some grown ∧ grown.write p text = .ok new := by
  have hOption {outcome : Except Fault FileTree} :
      outcome.toOption = some new ↔ outcome = .ok new := by
    cases outcome <;> simp [Except.toOption]
  rw [writeNew?]
  split_ifs with hNone
  · rw [Option.bind_eq_some_iff]
    simp only [hNone, hOption, true_and]
  · simp [hNone]

theorem grows_of_withParent (h : t.withParent p = some grown) : Grows t grown := by
  rw [withParent] at h
  split at h
  · obtain rfl := Option.some.inj h
    exact Grows.refl t
  · exact (grows_of_withDirectory h).1

end FileTree

namespace Files

open FileTree

variable {t grown new : FileTree} {p : Path} {text : Text}

@[simp] theorem onDisk_kind (p : Path) (t : FileTree) : (kind p).onDisk t = (t.kind? p, t) := rfl

@[simp] theorem onDisk_present (p : Path) (t : FileTree) :
    (present p).onDisk t = ((t.kind? p).isSome, t) := rfl

/-- The directory is there afterwards, or the job fails and at most others have been made. -/
theorem onDisk_ensureDirectory (p : Path) (t : FileTree) :
    (∃ grown, t.withDirectory p = some grown ∧ (ensureDirectory p).onDisk t = (.ok (), grown)) ∨
      t.withDirectory p = none ∧ ∃ failure grown,
        (ensureDirectory p).onDisk t = (.error failure, grown) ∧ Grows t grown := by
  rw [withDirectory, ensureDirectory, Job.onDisk_bind, Job.onDisk_lift, onDisk_kind]
  cases t.kind? p with
  | none =>
      have hGrows := grows_makeDirectories t p.ancestors
      simp only [Job.onDisk_bind, Job.onDisk_require, Request.answer]
      cases hMade : t.makeDirectories p.ancestors with
      | mk grown outcome =>
          rw [hMade] at hGrows
          cases outcome with
          | ok _ => exact Or.inl ⟨grown, rfl, rfl⟩
          | error fault => exact Or.inr ⟨rfl, _, grown, rfl, hGrows⟩
  | some kind =>
      cases kind with
      | file => exact Or.inr ⟨rfl, _, t, rfl, Grows.refl t⟩
      | directory => exact Or.inl ⟨t, rfl, rfl⟩

/-- A file that is written and then reported. -/
theorem onDisk_write (p : Path) (text : Text) (failure : Fault → Failure) (message : String)
    (t : FileTree) :
    (do Job.require failure (.write p text); Plan.log .files .info message : Job Unit).onDisk t =
      match t.write p text with
      | .ok new => (.ok (), new)
      | .error fault => (.error (failure fault), t) := by
  rw [Job.onDisk_bind, Job.onDisk_require, Request.answer]
  cases t.write p text <;> rfl

/-- The file is there afterwards, or the job fails and at most directories have been made. -/
theorem onDisk_writeNew (p : Path) (text : Text) (t : FileTree) :
    (∃ new, t.writeNew? p text = some new ∧ (writeNew p text false).onDisk t = (.ok (), new)) ∨
      t.writeNew? p text = none ∧ ∃ failure grown,
        (writeNew p text false).onDisk t = (.error failure, grown) ∧ Grows t grown := by
  rw [writeNew?, writeNew, Job.onDisk_bind, Job.onDisk_lift, onDisk_present]
  by_cases hNone : t.at? p = none
  · rw [if_pos hNone, kind?_eq_none_iff.mpr hNone, withParent]
    simp only [Option.isSome_none, Bool.false_and, Bool.false_eq_true, if_false]
    cases p.parent? with
    | none =>
        simp only [Option.bind_some, onDisk_write]
        cases t.write p text with
        | ok new => exact Or.inl ⟨new, rfl, rfl⟩
        | error fault => exact Or.inr ⟨rfl, _, t, rfl, Grows.refl t⟩
    | some above =>
        simp only [Job.onDisk_bind (ensureDirectory above)]
        rcases onDisk_ensureDirectory above t with
          ⟨grown, hGrown, hRun⟩ | ⟨hNone, failure, grown, hRun, hGrows⟩
        · have hGrows := (grows_of_withDirectory hGrown).1
          simp only [hGrown, hRun, Option.bind_some, onDisk_write]
          cases grown.write p text with
          | ok new => exact Or.inl ⟨new, rfl, rfl⟩
          | error fault => exact Or.inr ⟨rfl, _, grown, rfl, hGrows⟩
        · rw [hNone, hRun]
          exact Or.inr ⟨rfl, failure, grown, rfl, hGrows⟩
  · rw [if_neg hNone]
    cases hKind : t.kind? p with
    | none => exact absurd (kind?_eq_none_iff.mp hKind) hNone
    | some kind => exact Or.inr ⟨rfl, _, t, rfl, Grows.refl t⟩

end Files

end Scaffold
