import Scaffold.Proofs.Disk.Staging
import Scaffold.Proofs.Route.Binding
import Scaffold.Proofs.Route.InPlace

namespace Scaffold

/-- Whether the cause lies in the text of a file rather than on the disk. -/
def Cause.inText : Cause → Bool
  | noClosingBrace | noMarker _ => true
  | _ => false

/-- The outcome is a failure with this cause, in whatever contexts. -/
def Carries (outcome : Except Failure Addition) (cause : Cause) : Prop :=
  ∃ failure, outcome = .error failure ∧ failure.cause = cause

/-- What is added to a file. -/
inductive Edit where
  | binding
  | handler
  | registration
  deriving DecidableEq

namespace Edit

/-- The addition to the text of a file. -/
def onText (names : RouteNames) : Edit → Text → Except Cause Addition
  | binding, t => RouteFile.addBinding t names
  | handler, t => .ok (ControllerFile.addStub t names.handler (NewFile.stub names))
  | registration, t => Registry.register t names

/-- The addition to the file at the path. -/
def inFile (names : RouteNames) (p : Path) : Edit → Job Addition
  | binding => RouteFile.addBindingAt p names
  | handler => ControllerFile.addStubAt p names
  | registration => Registry.registerAt p names

end Edit

open FileTree

/-- An addition to the file at the path had this outcome and left the second tree, as the addition to
the text of the file has it. -/
structure Refined (t : FileTree) (p : Path) (addition : Text → Except Cause Addition)
    (outcome : Except Failure Addition) (t' : FileTree) : Prop where
  unchanged : (∀ new, outcome ≠ .ok (.applied new)) → t' = t
  applied : ∀ new, outcome = .ok (.applied new) →
    ∃ l old, t.locate p = .ok l ∧ t.lookup l = some (.file (.text old)) ∧
      addition old = .ok (.applied new) ∧ t'.lookup l = some (.file (.text new)) ∧
      ∀ m, m ≠ l → t'.lookup m = t.lookup m
  present : outcome = .ok .alreadyPresent ↔
    ∃ text, t.textAt? p = some text ∧ addition text = .ok .alreadyPresent
  missing : ∀ q, Carries outcome (.fileMissing q) ↔ q = p ∧ t.isFile p = false
  refused : ∀ cause, cause.inText →
    (Carries outcome cause ↔ ∃ text, t.textAt? p = some text ∧ addition text = .error cause)
  /-- The tree is the one that the system calls leave, and whichever of them is refused, no other file
  is left behind. -/
  staged : ∀ old new, t.textAt? p = some old → addition old = .ok (.applied new) →
    ∀ name, t.TemporaryName p name →
      (t.replacement p name new fun _ => false).getLast? = some t' ∧
        ∀ refused, t.Atomic p new ((stagingDirectory p).join name).location
          (t.replacement p name new refused)

variable {t t' : FileTree} {p : Path} {what : String} {addition : Text → Except Cause Addition}
  {outcome : Except Failure Addition}

@[simp] theorem carries_ok (made : Addition) (cause : Cause) : ¬ Carries (.ok made) cause := by
  rintro ⟨failure, hOutcome, -⟩
  cases hOutcome

@[simp] theorem carries_error_iff {failure : Failure} {cause : Cause} :
    Carries (.error failure) cause ↔ failure.cause = cause := by
  simp [Carries]

namespace Files.Extended

theorem unchanged (h : Extended t p what addition outcome t')
    (hNone : ∀ new, outcome ≠ .ok (.applied new)) : t' = t := by
  cases h with
  | applied held ok place replaced => exact absurd rfl (hNone _)
  | _ => rfl

theorem exists_of_applied {new : Text}
    (h : Extended t p what addition (.ok (.applied new)) t') :
    ∃ l old, t.locate p = .ok l ∧ t.lookup l = some (.file (.text old)) ∧
      addition old = .ok (.applied new) ∧ t'.lookup l = some (.file (.text new)) ∧
      ∀ m, m ≠ l → t'.lookup m = t.lookup m := by
  cases h with
  | @applied old _ l held ok place =>
      have hFile := lookup_of_textAt? held place
      exact ⟨l, old, place, hFile, ok, lookup_put_self_of_ne (by simp [hFile]) _,
        fun m hm => lookup_put_of_ne hm _⟩

/-- The outcome that the text of the file decides is that of its addition. -/
theorem present_iff (h : Extended t p what addition outcome t') :
    outcome = .ok .alreadyPresent ↔
      ∃ text, t.textAt? p = some text ∧ addition text = .ok .alreadyPresent := by
  cases h with
  | missing other => simp [textAt?_eq_none_of_not_isFile other]
  | unreadable file read => simp [textAt?_eq_none_of_read read]
  | refused held error => simp [held, error]
  | present held ok => simp [held, ok]
  | applied held ok => simp [held, ok]
  | stopped held ok => simp [held, ok]

theorem carries_fileMissing_iff (h : Extended t p what addition outcome t')
    (hCauses : ∀ text cause, addition text = .error cause → cause.inText) (q : Path) :
    Carries outcome (.fileMissing q) ↔ q = p ∧ t.isFile p = false := by
  cases h with
  | missing other => simp [Failure.ofCause, other, eq_comm]
  | unreadable file read => simp [failure, file]
  | @refused text cause held error =>
      have hOther : cause ≠ .fileMissing q := by
        rintro rfl
        cases hCauses _ _ error
      simp [isFile_of_textAt? held, hOther]
  | present held ok => simp [isFile_of_textAt? held]
  | applied held ok => simp [isFile_of_textAt? held]
  | @stopped _ _ fault held ok =>
      have hOther : (replaceFailure p fault).cause ≠ .fileMissing q := by
        cases fault <;> simp [replaceFailure, failure]
      simp [isFile_of_textAt? held, hOther]

theorem carries_iff_of_inText (h : Extended t p what addition outcome t') {cause : Cause}
    (hText : cause.inText) :
    Carries outcome cause ↔ ∃ text, t.textAt? p = some text ∧ addition text = .error cause := by
  cases h with
  | missing other =>
      rw [textAt?_eq_none_of_not_isFile other]
      cases cause <;> simp_all [Failure.ofCause, Cause.inText]
  | unreadable file read =>
      rw [textAt?_eq_none_of_read read]
      cases cause <;> simp_all [failure, Cause.inText]
  | refused held error => simp [held, error]
  | present held ok => simp [held, ok]
  | applied held ok => simp [held, ok]
  | @stopped _ _ fault held ok =>
      have hOther : (replaceFailure p fault).cause ≠ cause := by
        rintro rfl
        cases fault <;> cases hText
      simp [held, ok, hOther]

/-- An addition that the text of the file allows leaves the tree that the replacement leaves. -/
theorem eq_getD_replace (h : Extended t p what addition outcome t') {old new : Text}
    (hOld : t.textAt? p = some old) (hNew : addition old = .ok (.applied new)) :
    t' = (t.replace p new).toOption.getD t := by
  -- All ends but the last two say something else about the file or its text.
  cases h with
  | missing other =>
      rw [textAt?_eq_none_of_not_isFile other] at hOld
      cases hOld
  | unreadable file read =>
      rw [textAt?_eq_none_of_read read] at hOld
      cases hOld
  | refused held error =>
      obtain rfl := Option.some.inj (held.symm.trans hOld)
      cases error.symm.trans hNew
  | present held ok =>
      obtain rfl := Option.some.inj (held.symm.trans hOld)
      cases ok.symm.trans hNew
  | applied held ok place replaced =>
      obtain rfl := Option.some.inj (held.symm.trans hOld)
      cases ok.symm.trans hNew
      rw [replaced]
      rfl
  | stopped held ok replaced =>
      obtain rfl := Option.some.inj (held.symm.trans hOld)
      cases ok.symm.trans hNew
      rw [replaced]
      rfl

/-- How an addition can end says what it had to do with the text of the file. -/
theorem refined (h : Extended t p what addition outcome t')
    (hCauses : ∀ text cause, addition text = .error cause → cause.inText) :
    Refined t p addition outcome t' where
  unchanged := h.unchanged
  applied := by
    rintro new rfl
    exact h.exists_of_applied
  present := h.present_iff
  missing := h.carries_fileMissing_iff hCauses
  refused cause hText := h.carries_iff_of_inText hText
  staged old new hOld hNew name hName := by
    obtain ⟨l, hLocate, hFile⟩ := textAt?_eq_some_iff_locate.mp hOld
    refine ⟨?_, hName.atomic_replacement hLocate hFile new⟩
    rw [hName.getLast?_replacement hLocate hFile, h.eq_getD_replace hOld hNew]

end Files.Extended

theorem RouteFile.cause_of_addBinding {text : Text} {names : RouteNames} {cause : Cause}
    (h : addBinding text names = .error cause) : cause = .noClosingBrace := by
  rw [addBinding] at h
  split at h
  · cases h
  · cases hSpliced : spliced text names.binding with
    | error other =>
        rw [hSpliced] at h
        obtain rfl := Except.error.inj h
        exact (spliced_eq_error_iff.mp hSpliced).1
    | ok grown =>
        rw [hSpliced] at h
        cases h

theorem Registry.cause_of_register {text : Text} {names : RouteNames} {cause : Cause}
    (h : register text names = .error cause) : cause = .noMarker marker := by
  rw [register] at h
  split at h
  · exact (Except.error.inj h).symm
  · split at h <;> cases h

namespace Edit

/-- The text of a file fails an addition for what is or is not in it. -/
theorem inText_of_onText {edit : Edit} {names : RouteNames} {text : Text} {cause : Cause}
    (h : edit.onText names text = .error cause) : cause.inText := by
  cases edit with
  | binding =>
      rw [RouteFile.cause_of_addBinding h]
      rfl
  | handler => cases h
  | registration =>
      rw [Registry.cause_of_register h]
      rfl

theorem extended_inFile (edit : Edit) (names : RouteNames) (p : Path) (t : FileTree) :
    ∃ what, Files.Extended t p what (edit.onText names) ((edit.inFile names p).onDisk t).1
      ((edit.inFile names p).onDisk t).2 := by
  cases edit with
  | binding => exact ⟨_, Files.extended_onDisk p _ _ _ t⟩
  | handler => exact ⟨_, Files.extended_onDisk p _ _ _ t⟩
  | registration => exact ⟨_, Files.extended_onDisk p _ _ _ t⟩

/-- Each of the additions to files on the disk does what its addition to texts does. -/
theorem refined_inFile (edit : Edit) (names : RouteNames) (p : Path) (w : World) :
    Refined w.disk p (edit.onText names) ((edit.inFile names p).run.run w).1
      ((edit.inFile names p).run.run w).2.disk := by
  obtain ⟨hOutcome, hDisk⟩ := (edit.inFile names p).run_eq_onDisk w
  obtain ⟨what, hExtended⟩ := extended_inFile edit names p w.disk
  rw [hOutcome, hDisk]
  exact hExtended.refined fun text cause => inText_of_onText

end Edit

end Scaffold
