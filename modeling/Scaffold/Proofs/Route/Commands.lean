import Scaffold.Proofs.Disk.Creation
import Scaffold.Proofs.Route.InPlace
import Scaffold.Proofs.Settings.ModuleFile
import Scaffold.Route.Commands

/-! The commands on routes as functions on file trees. Each of them finds the names of the route first
and then carries out its operations one after the other, each on the tree that the one before it left;
the outcome of the command counts those that failed. -/

namespace Scaffold

namespace Tally

variable {α : Type}

/-- The tally with one more operation that ended as given. -/
def after (tally : Tally) (outcome : Except Failure α) : Tally where
  attempted := tally.attempted + 1
  failed := tally.failed + if outcome.isOk then 0 else 1

/-- How a command ends that has this tally in the end. -/
def outcome (tally : Tally) : Except Failure Unit :=
  if 0 < tally.failed then
    .error (Failure.ofCause (.operationsFailed tally.failed tally.attempted))
  else .ok ()

theorem onDisk_record (tally : Tally) (p : Path) (operation : Job α) (success : α → String)
    (t : FileTree) :
    (tally.record p operation success).onDisk t =
      (tally.after (operation.onDisk t).1, (operation.onDisk t).2) := by
  have hRun : Plan.onDisk operation.run t = operation.onDisk t := rfl
  rw [record, Plan.onDisk_bind, hRun]
  cases (operation.onDisk t).1 with
  | ok value => rfl
  | error failure =>
      change Plan.onDisk (if isExpected failure.cause then _ else _) _ = _
      cases isExpected failure.cause <;> rfl

theorem onDisk_finish (tally : Tally) (t : FileTree) : tally.finish.onDisk t = (tally.outcome, t) := by
  rw [finish, outcome]
  split_ifs <;> rfl

end Tally

namespace Route

open FileTree

/-- The names for a request in the project, if its module file names the module. -/
def namesIn (t : FileTree) (project : Project) (request : RouteRequest) : Option RouteNames :=
  (t.moduleAt? project.moduleFile).map (RouteNames.ofRequest request)

variable {t : FileTree} {project : Project} {request : RouteRequest} {names : RouteNames}

theorem onDisk_namesFor (project : Project) (request : RouteRequest) (t : FileTree) :
    ((namesFor project request).onDisk t).1.toOption = namesIn t project request ∧
      ((namesFor project request).onDisk t).2 = t := by
  obtain ⟨hModule, hDisk⟩ := Project.onDisk_moduleRoot project.moduleFile t
  rw [namesFor, Job.onDisk_bind, namesIn, ← hModule]
  cases hRun : (Project.moduleRoot project.moduleFile).onDisk t with
  | mk outcome t' =>
      rw [hRun] at hDisk
      cases outcome <;> exact ⟨rfl, hDisk⟩

theorem onDisk_namesFor_bind {α : Type} (hNames : namesIn t project request = some names)
    (f : RouteNames → Job α) :
    (namesFor project request >>= f).onDisk t = (f names).onDisk t := by
  obtain ⟨hOutcome, hDisk⟩ := onDisk_namesFor project request t
  rw [hNames] at hOutcome
  rw [Job.onDisk_bind]
  cases hRun : (namesFor project request).onDisk t with
  | mk outcome t' =>
      rw [hRun] at hOutcome hDisk
      cases outcome with
      | ok found =>
          obtain rfl : found = names := Option.some.inj hOutcome
          rw [← hDisk]
      | error failure => cases hOutcome

/-- Without the names a command does nothing more. -/
theorem onDisk_namesFor_bind_of_none {α : Type} (hNames : namesIn t project request = none)
    (f : RouteNames → Job α) :
    ∃ failure, (namesFor project request >>= f).onDisk t = (.error failure, t) := by
  obtain ⟨hOutcome, hDisk⟩ := onDisk_namesFor project request t
  rw [hNames] at hOutcome
  rw [Job.onDisk_bind]
  cases hRun : (namesFor project request).onDisk t with
  | mk outcome t' =>
      rw [hRun] at hOutcome hDisk
      cases outcome with
      | ok found => cases hOutcome
      | error failure => exact ⟨failure, by rw [← hDisk]⟩

theorem onDisk_create (force noRegister : Bool) (hNames : namesIn t project request = some names) :
    let first :=
      (Files.writeNew (project.routeFile names.resource) (NewFile.route names) force).onDisk t
    let second := (Files.writeNew (project.controllerFile names.resource) (NewFile.controller names)
      force).onDisk first.2
    let third := (Registry.registerAt project.registryFile names).onDisk second.2
    let tally := (({} : Tally).after first.1).after second.1
    (create project request force noRegister).onDisk t =
      if noRegister then (tally.outcome, second.2) else ((tally.after third.1).outcome, third.2) := by
  intro first second third tally
  rw [create, onDisk_namesFor_bind hNames]
  simp only [Job.onDisk_bind, Job.onDisk_lift, Plan.onDisk_log, Tally.onDisk_record]
  cases noRegister with
  | true =>
      simp only [if_true, Job.onDisk_bind, Job.onDisk_lift, Plan.onDisk_log, Tally.onDisk_finish]
      rfl
  | false =>
      simp only [Bool.false_eq_true, if_false, Job.onDisk_bind, Job.onDisk_lift, recordRegistration,
        Tally.onDisk_record, Tally.onDisk_finish]
      rfl

end Route

end Scaffold
