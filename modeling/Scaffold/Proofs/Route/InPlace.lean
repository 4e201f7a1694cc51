import Scaffold.Proofs.Disk.Reading
import Scaffold.Proofs.Disk.Replacement
import Scaffold.Route.InPlace

/-! Additions to files on the disk. Whether one is made, and what it leaves, can be read off the tree
beforehand: the file has to be a text file, the addition has to be possible in its text, and then the
entry of that one file changes. -/

namespace Scaffold

namespace FileTree

/-- What comes of an addition to the file that the path names, if it is a text file and the addition
is possible in its text. -/
def additionAt? (t : FileTree) (p : Path) (addition : Text → Except Cause Addition) :
    Option Addition :=
  (t.textAt? p).bind fun text => (addition text).toOption

/-- The path names a file at the location, and the addition makes the new text out of its text. -/
def Rewrites (t : FileTree) (p : Path) (addition : Text → Except Cause Addition) (l : Location)
    (new : Text) : Prop :=
  t.locate p = .ok l ∧ t.additionAt? p addition = some (.applied new)

end FileTree

namespace Files

open FileTree

/-- How an addition to a file can end, and the tree that it leaves. -/
inductive Extended (t : FileTree) (p : Path) (what : String)
    (addition : Text → Except Cause Addition) : Except Failure Addition → FileTree → Prop where
  | missing (other : t.isFile p = false) :
      Extended t p what addition (.error (Failure.ofCause (.fileMissing p))) t
  | unreadable {fault : Fault} (file : t.isFile p) (read : t.read p = .error fault) :
      Extended t p what addition (.error (failure s!"Failed to read file {p.quoted}" fault)) t
  | refused {text : Text} {cause : Cause} (held : t.textAt? p = some text)
      (error : addition text = .error cause) :
      Extended t p what addition (.error ⟨[s!"Failed to add {what} to {p}"], cause⟩) t
  | present {text : Text} (held : t.textAt? p = some text)
      (ok : addition text = .ok .alreadyPresent) :
      Extended t p what addition (.ok .alreadyPresent) t
  | applied {text new : Text} {l : Location} (held : t.textAt? p = some text)
      (ok : addition text = .ok (.applied new)) (place : t.locate p = .ok l)
      (replaced : t.replace p new = .ok (t.put l (.file (.text new)))) :
      Extended t p what addition (.ok (.applied new)) (t.put l (.file (.text new)))
  /-- The temporary file could not be made. -/
  | stopped {text new : Text} {fault : ReplaceFault} (held : t.textAt? p = some text)
      (ok : addition text = .ok (.applied new)) (replaced : t.replace p new = .error fault) :
      Extended t p what addition (.error (replaceFailure p fault)) t

variable {t t' : FileTree} {p : Path} {what : String} {addition : Text → Except Cause Addition}
  {outcome : Except Failure Addition} {l : Location}

theorem onDisk_warn (warnings : List String) (t : FileTree) : (warn warnings).onDisk t = ((), t) := by
  induction warnings with
  | nil => rfl
  | cons warning rest ih =>
      rw [warn, Plan.onDisk_bind]
      exact ih

theorem onDisk_replaceText (p : Path) (new : Text) (t : FileTree) :
    (replaceText p new).onDisk t =
      match t.replace p new with
      | .ok t' => (.ok (), t')
      | .error fault => (.error (replaceFailure p fault), t) := by
  rw [replaceText, Job.onDisk_require, Request.answer]
  cases t.replace p new <;> rfl

theorem extended_onDisk (p : Path) (what : String) (warnings : Text → List String)
    (addition : Text → Except Cause Addition) (t : FileTree) :
    Extended t p what addition ((extend p what warnings addition).onDisk t).1
      ((extend p what warnings addition).onDisk t).2 := by
  rw [extend, Job.onDisk_bind, Job.onDisk_lift, onDisk_isFile]
  cases hFile : t.isFile p with
  | false => exact .missing hFile
  | true =>
      simp only [if_true, Job.onDisk_bind, onDisk_readText]
      cases hRead : t.read p with
      | error fault => exact .unreadable hFile hRead
      | ok text =>
          have hText := read_eq_ok_iff.mp hRead
          simp only [Except.mapError, Job.onDisk_lift, onDisk_warn]
          cases hAddition : addition text with
          | error cause => exact .refused hText hAddition
          | ok made =>
              cases made with
              | alreadyPresent => exact .present hText hAddition
              | applied new =>
                  simp only [Job.onDisk_bind, onDisk_replaceText]
                  obtain ⟨l, hLocate, hHeld⟩ := textAt?_eq_some_iff_locate.mp hText
                  have hReplace : t.replace p new = _ := replace_of_file hLocate hHeld
                  cases hSlot : t.slot ((stagingDirectory p).join temporaryName) with
                  | error fault =>
                      rw [hSlot] at hReplace
                      rw [hReplace]
                      exact .stopped hText hAddition hReplace
                  | ok place =>
                      rw [hSlot] at hReplace
                      rw [hReplace]
                      exact .applied hText hAddition hLocate hReplace

/-- An addition changes the entry of the file to which something is added, and no other. -/
theorem Extended.lookup_eq (h : Extended t p what addition outcome t') (l : Location) :
    t'.lookup l = t.lookup l ∨
      ∃ new, Rewrites t p addition l new ∧ t'.lookup l = some (.file (.text new)) := by
  cases h with
  | @applied text new place held ok hLocate =>
      by_cases hl : l = place
      · have hSelf : (t.put place (.file (.text new))).lookup place = some (.file (.text new)) :=
          lookup_put_self_of_ne (by simp [lookup_of_textAt? held hLocate]) _
        refine Or.inr ⟨new, ⟨hl ▸ hLocate, ?_⟩, hl ▸ hSelf⟩
        rw [additionAt?, held, Option.bind_some, ok]
        rfl
      · exact Or.inl (lookup_put_of_ne hl _)
  | _ => exact Or.inl rfl

theorem Extended.sameShape (h : Extended t p what addition outcome t') : SameShape t t' := by
  cases h with
  | applied held ok place => exact sameShape_put (lookup_of_textAt? held place)
  | _ => exact SameShape.refl t

/-- If the name of the file is long enough, the addition ends as the text of the file says. -/
theorem Extended.toOption_eq (h : Extended t p what addition outcome t')
    (hLong : Text.byteSize temporaryName ≤ Text.byteSize p.fileName) :
    outcome.toOption = t.additionAt? p addition := by
  rw [additionAt?]
  cases h with
  | missing other =>
      rw [textAt?_eq_none_of_not_isFile other]
      rfl
  | unreadable file read =>
      rw [textAt?_eq_none_of_read read]
      rfl
  | refused held error => rw [held, Option.bind_some, error]; rfl
  | present held ok => rw [held, Option.bind_some, ok]; rfl
  | applied held ok => rw [held, Option.bind_some, ok]; rfl
  | stopped held ok replaced =>
      obtain ⟨l, hLocate, hHeld⟩ := textAt?_eq_some_iff_locate.mp held
      rw [replace_of_long_name hLocate hHeld hLong] at replaced
      cases replaced

/-- If the name of the file is long enough, an addition that is possible is made. -/
theorem Extended.lookup_of_rewrites (h : Extended t p what addition outcome t')
    (hLong : Text.byteSize temporaryName ≤ Text.byteSize p.fileName) {new : Text}
    (hNew : Rewrites t p addition l new) : t'.lookup l = some (.file (.text new)) := by
  have hOutcome := h.toOption_eq hLong
  rw [hNew.2] at hOutcome
  cases h with
  | applied held ok place =>
      obtain rfl := Addition.applied.inj (Option.some.inj hOutcome)
      have hPlace := hNew.1
      rw [place] at hPlace
      obtain rfl := Except.ok.inj hPlace
      exact lookup_put_self_of_ne (by simp [lookup_of_textAt? held place]) _
  | present => cases hOutcome
  | _ => cases hOutcome

/-- An addition to one file leaves what another addition does to another file. -/
theorem Extended.additionAt?_eq (h : Extended t p what addition outcome t') {q : Path}
    (hApart : p.location ≠ q.location) (other : Text → Except Cause Addition) :
    t'.additionAt? q other = t.additionAt? q other := by
  have hSame : t'.lookup q.location = t.lookup q.location := by
    rcases h.lookup_eq q.location with hSame | ⟨new, hNew, -⟩
    · exact hSame
    · exact absurd (eq_location_of_locate hNew.1).symm hApart
  rw [additionAt?, additionAt?, textAt?_of_sameShape h.sameShape hSame]

end Files

end Scaffold
