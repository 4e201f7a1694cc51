import Scaffold.Files
import Scaffold.Proofs.Disk.Growth

/-! Plans as functions on file trees. No answer depends on what was said before, so the messages of a
plan can be left out where only the disk matters. The file operations then come down to those of
the tree: each of them writes the one file it is asked for, or it fails and at most new directories
are there. -/

namespace Scaffold

/-- The value of the plan and the disk after it. -/
def Plan.onDisk {α : Type} : Plan α → FileTree → α × FileTree
  | done value, t => (value, t)
  | ask r next, t =>
    let (answer, w) := r.answer ⟨t, []⟩
    (next answer).onDisk w.disk

/-- The outcome of the job and the disk after it. -/
def Job.onDisk {α : Type} (job : Job α) (t : FileTree) : Except Failure α × FileTree :=
  Plan.onDisk job.run t

theorem Request.answer_disk {β : Type} (r : Request β) (w : World) :
    (r.answer w).1 = (r.answer ⟨w.disk, []⟩).1 ∧
      (r.answer w).2.disk = (r.answer ⟨w.disk, []⟩).2.disk := by
  cases r with
  | kind p => exact ⟨rfl, rfl⟩
  | read p => exact ⟨rfl, rfl⟩
  | makeDirectories p => exact ⟨rfl, rfl⟩
  | tell message => exact ⟨rfl, rfl⟩
  | write p text =>
      rw [answer, answer]
      cases w.disk.write p text <;> exact ⟨rfl, rfl⟩
  | replace p text =>
      rw [answer, answer]
      cases w.disk.replace p text <;> exact ⟨rfl, rfl⟩

namespace Plan

variable {α β : Type}

theorem run_eq_onDisk (plan : Plan α) (w : World) :
    (plan.run w).1 = (plan.onDisk w.disk).1 ∧ (plan.run w).2.disk = (plan.onDisk w.disk).2 := by
  induction plan generalizing w with
  | done value => exact ⟨rfl, rfl⟩
  | ask r next ih =>
      obtain ⟨hAnswer, hDisk⟩ := r.answer_disk w
      rw [run, onDisk]
      simp only
      rw [← hAnswer, ← hDisk]
      exact ih _ _

@[simp] theorem onDisk_pure (a : α) (t : FileTree) : (pure a : Plan α).onDisk t = (a, t) := rfl

@[simp] theorem onDisk_bind (plan : Plan α) (f : α → Plan β) (t : FileTree) :
    (plan >>= f).onDisk t = (f (plan.onDisk t).1).onDisk (plan.onDisk t).2 := by
  induction plan generalizing t with
  | done value => rfl
  | ask r next ih => exact ih _ _

@[simp] theorem onDisk_say (text : String) (t : FileTree) : (say text).onDisk t = ((), t) := rfl

@[simp] theorem onDisk_log (origin : Origin) (severity : Severity) (text : String) (t : FileTree) :
    (log origin severity text).onDisk t = ((), t) := rfl

end Plan

namespace Job

variable {α β : Type}

theorem run_eq_onDisk (job : Job α) (w : World) :
    (job.run.run w).1 = (job.onDisk w.disk).1 ∧ (job.run.run w).2.disk = (job.onDisk w.disk).2 :=
  Plan.run_eq_onDisk job.run w

@[simp] theorem onDisk_pure (a : α) (t : FileTree) : (pure a : Job α).onDisk t = (.ok a, t) := rfl

@[simp] theorem onDisk_lift (plan : Plan α) (t : FileTree) :
    (liftM plan : Job α).onDisk t = (.ok (plan.onDisk t).1, (plan.onDisk t).2) :=
  Plan.onDisk_bind plan (fun a => pure (Except.ok a)) t

/-- A job goes on where its first part succeeded. -/
theorem onDisk_bind (job : Job α) (f : α → Job β) (t : FileTree) :
    (job >>= f).onDisk t =
      match job.onDisk t with
      | (.ok a, t') => (f a).onDisk t'
      | (.error failure, t') => (.error failure, t') := by
  change Plan.onDisk (job.run >>= ExceptT.bindCont f) t = _
  rw [Plan.onDisk_bind, onDisk]
  cases Plan.onDisk job.run t with
  | mk outcome t' => cases outcome <;> rfl

@[simp] theorem onDisk_within (context : String) (job : Job α) (t : FileTree) :
    (within context job).onDisk t =
      ((job.onDisk t).1.mapError (Failure.within context), (job.onDisk t).2) :=
  Plan.onDisk_bind job.run (fun outcome => pure (outcome.mapError (Failure.within context))) t

theorem onDisk_require {ε : Type} (failure : ε → Failure) (r : Request (Except ε α)) (t : FileTree) :
    (require failure r).onDisk t =
      ((r.answer ⟨t, []⟩).1.mapError failure, (r.answer ⟨t, []⟩).2.disk) := by
  rw [require, onDisk_bind, onDisk_lift]
  cases hAnswer : r.answer ⟨t, []⟩ with
  | mk answer w =>
      have hRequest : (Plan.request r).onDisk t = (answer, w.disk) := by
        rw [Plan.request, Plan.onDisk, hAnswer]
        rfl
      rw [hRequest]
      cases answer <;> rfl

end Job

end Scaffold
