import Scaffold.Proofs.Disk.OnDisk
import Scaffold.Proofs.Disk.Places

/-! What can be read. A path gives a text exactly if it names a text file: nothing can be read where
there is no file, where there is a directory, and where the bytes of the file are no text. -/

namespace Scaffold

namespace FileTree

/-- The text of what the path names, if that is a text file. -/
def textAt? (t : FileTree) (p : Path) : Option Text :=
  match t.at? p with
  | some (.file (.text text)) => some text
  | _ => none

variable {t t' : FileTree} {p : Path} {l : Location} {text : Text}

theorem textAt?_eq_some_iff : t.textAt? p = some text ↔ t.at? p = some (.file (.text text)) := by
  rw [textAt?]
  split <;> simp_all

theorem textAt?_eq_some_iff_locate :
    t.textAt? p = some text ↔
      ∃ l, t.locate p = .ok l ∧ t.lookup l = some (.file (.text text)) := by
  rw [textAt?_eq_some_iff, at?_eq_some_iff]

/-- Where the path leads, the text stands. -/
theorem lookup_of_textAt? (hText : t.textAt? p = some text) (hLocate : t.locate p = .ok l) :
    t.lookup l = some (.file (.text text)) := by
  obtain ⟨m, hm, hHeld⟩ := textAt?_eq_some_iff_locate.mp hText
  rw [hLocate] at hm
  rwa [Except.ok.inj hm]

theorem textAt?_eq_none_of_not_isFile (h : t.isFile p = false) : t.textAt? p = none := by
  rw [isFile] at h
  rw [textAt?]
  split at h <;> simp_all

theorem isFile_of_textAt? (h : t.textAt? p = some text) : t.isFile p := by
  by_contra hOther
  rw [Bool.not_eq_true] at hOther
  rw [textAt?_eq_none_of_not_isFile hOther] at h
  cases h

theorem read_eq_ok_iff : t.read p = .ok text ↔ t.textAt? p = some text := by
  rw [textAt?_eq_some_iff, read, at?]
  cases t.locate p with
  | error fault => simp [bind, Except.bind]
  | ok l =>
      simp only [bind, Except.bind]
      split <;> simp_all [pure, Except.pure, throw, throwThe, MonadExceptOf.throw]

theorem textAt?_eq_none_of_read {fault : Fault} (h : t.read p = .error fault) :
    t.textAt? p = none := by
  apply Option.eq_none_iff_forall_ne_some.mpr
  intro text hText
  rw [read_eq_ok_iff.mpr hText] at h
  cases h

theorem textAt?_of_sameShape (h : SameShape t t') (hLookup : t'.lookup p.location = t.lookup p.location) :
    t'.textAt? p = t.textAt? p := by
  have hAt : t'.at? p = t.at? p := by
    rw [at?, at?, h.locate_eq]
    cases hLocate : t.locate p with
    | error fault => rfl
    | ok l =>
        obtain rfl := eq_location_of_locate hLocate
        exact hLookup
  rw [textAt?, textAt?, hAt]

end FileTree

namespace Job

variable {α : Type}

theorem onDisk_tryCatch (job : Job α) (handler : Failure → Job α) (t : FileTree) :
    (tryCatch job handler).onDisk t =
      match job.onDisk t with
      | (.ok a, t') => (.ok a, t')
      | (.error failure, t') => (handler failure).onDisk t' := by
  change Plan.onDisk (job.run >>= _) t = _
  rw [Plan.onDisk_bind, onDisk]
  cases Plan.onDisk job.run t with
  | mk outcome t' => cases outcome <;> rfl

end Job

namespace Files

theorem onDisk_isFile (p : Path) (t : FileTree) : (isFile p).onDisk t = (t.isFile p, t) := by
  rw [isFile, Plan.onDisk_bind]
  simp only [kind, Plan.request, Plan.onDisk, Request.answer, FileTree.kind?, FileTree.isFile]
  rcases t.at? p with _ | _ | content <;> rfl

theorem onDisk_readText (p : Path) (t : FileTree) :
    (readText p).onDisk t =
      ((t.read p).mapError (failure s!"Failed to read file {p.quoted}"), t) :=
  Job.onDisk_require ..

end Files

end Scaffold
