import Mathlib.Order.Defs.Unbundled
import Scaffold.Files

/-! Relations that every step of a plan keeps to. If the answer to each request leads from a world to
a related one, and relations of single steps add up, the whole run leads to a related world. What the
values are does not matter for this, so it can be read off the plan part by part. -/

namespace Scaffold

/-- The answer to the request leads to a related world. -/
def Request.Keeps (R : World → World → Prop) {β : Type} (r : Request β) : Prop :=
  ∀ w, R w (r.answer w).2

/-- Every run of the plan leads to a related world. -/
def Plan.Keeps (R : World → World → Prop) {α : Type} (plan : Plan α) : Prop :=
  ∀ w, R w (plan.run w).2

/-- Every run of the job leads to a related world, whether it fails or not. -/
def Job.Keeps (R : World → World → Prop) {α : Type} (job : Job α) : Prop :=
  Plan.Keeps R job.run

variable {α β : Type}

namespace Job

variable {job : Job α} {w : World}

/-- A job goes on in the world that its first part left. -/
theorem run_bind_of_ok {a : α} (h : (job.run.run w).1 = .ok a) (f : α → Job β) :
    (job >>= f).run.run w = (f a).run.run (job.run.run w).2 := by
  change (job.run >>= ExceptT.bindCont f).run w = _
  rw [Plan.run_bind, h]
  rfl

theorem run_bind_of_error {failure : Failure} (h : (job.run.run w).1 = .error failure)
    (f : α → Job β) : (job >>= f).run.run w = (.error failure, (job.run.run w).2) := by
  change (job.run >>= ExceptT.bindCont f).run w = _
  rw [Plan.run_bind, h]
  rfl

end Job

variable {R : World → World → Prop} [IsPreorder World R]

namespace Request

theorem keeps_kind (p : Path) : (kind p).Keeps R :=
  fun w => refl w

theorem keeps_read (p : Path) : (read p).Keeps R :=
  fun w => refl w

end Request

namespace Plan

theorem keeps_pure (a : α) : (pure a : Plan α).Keeps R :=
  fun w => refl w

theorem keeps_bind {plan : Plan α} {f : α → Plan β} (h : plan.Keeps R) (hf : ∀ a, (f a).Keeps R) :
    (plan >>= f).Keeps R := by
  intro w
  rw [run_bind]
  exact IsTrans.trans _ _ _ (h w) (hf _ _)

end Plan

namespace Job

theorem keeps_pure (a : α) : (pure a : Job α).Keeps R :=
  Plan.keeps_pure (Except.ok a)

theorem keeps_throw (failure : Failure) : (throw failure : Job α).Keeps R :=
  Plan.keeps_pure (Except.error failure)

theorem keeps_lift {plan : Plan α} (h : plan.Keeps R) : (liftM plan : Job α).Keeps R :=
  Plan.keeps_bind h fun a => Plan.keeps_pure (Except.ok a)

/-- A job in two parts leads to a related world if the second part does so for the values that the
first one gives. -/
theorem keeps_bind_of_ok {job : Job α} {f : α → Job β} (h : job.Keeps R)
    (hf : ∀ a w, (job.run.run w).1 = .ok a → (f a).Keeps R) : (job >>= f).Keeps R := by
  intro w
  cases hOutcome : (job.run.run w).1 with
  | ok a =>
      rw [run_bind_of_ok hOutcome]
      exact IsTrans.trans _ _ _ (h w) (hf a w hOutcome _)
  | error failure =>
      rw [run_bind_of_error hOutcome]
      exact h w

theorem keeps_bind {job : Job α} {f : α → Job β} (h : job.Keeps R) (hf : ∀ a, (f a).Keeps R) :
    (job >>= f).Keeps R :=
  keeps_bind_of_ok h fun a _ _ => hf a

/-- What would come after a failure is never asked for. -/
theorem keeps_throw_bind (failure : Failure) (f : α → Job β) : (throw failure >>= f).Keeps R :=
  keeps_throw failure

theorem keeps_tryCatch {job : Job α} {handler : Failure → Job α} (h : job.Keeps R)
    (hHandler : ∀ failure, (handler failure).Keeps R) : (tryCatch job handler).Keeps R := by
  apply Plan.keeps_bind h
  intro outcome
  cases outcome with
  | ok a => exact keeps_pure a
  | error failure => exact hHandler failure

theorem keeps_within {job : Job α} (context : String) (h : job.Keeps R) :
    (within context job).Keeps R :=
  Plan.keeps_bind h fun outcome => Plan.keeps_pure (outcome.mapError (Failure.within context))

theorem keeps_require {ε : Type} (failure : ε → Failure) {r : Request (Except ε α)} (h : r.Keeps R) :
    (require failure r).Keeps R := by
  have hRequest : (Plan.request r).Keeps R := h
  rw [require]
  apply keeps_bind (keeps_lift hRequest)
  intro outcome
  cases outcome with
  | ok a => exact keeps_pure a
  | error e => exact keeps_throw (failure e)

end Job

namespace Files

theorem keeps_kind (p : Path) : (kind p).Keeps R :=
  Request.keeps_kind p

theorem keeps_present (p : Path) : (present p).Keeps R :=
  Plan.keeps_bind (keeps_kind p) fun _ => Plan.keeps_pure _

theorem keeps_isFile (p : Path) : (isFile p).Keeps R :=
  Plan.keeps_bind (keeps_kind p) fun _ => Plan.keeps_pure _

theorem keeps_readText (p : Path) : (readText p).Keeps R :=
  Job.keeps_require _ (Request.keeps_read p)

end Files

end Scaffold
