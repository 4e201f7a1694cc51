import Scaffold.Proofs.Confinement
import Scaffold.Proofs.Settings.Loading

namespace Scaffold

open FileTree

variable {w : World} {failure : Failure} {project : Project}

namespace Route

/-- A command on routes that finds no module does nothing more. -/
theorem run_namesFor_bind_of_error {α : Type} {request : RouteRequest}
    (h : ((Project.moduleRoot project.moduleFile).run.run w).1 = .error failure)
    (f : RouteNames → Job α) :
    (namesFor project request >>= f).run.run w =
      (.error failure, ((Project.moduleRoot project.moduleFile).run.run w).2) := by
  have hNames : (namesFor project request).run.run w =
      (.error failure, ((Project.moduleRoot project.moduleFile).run.run w).2) :=
    Job.run_bind_of_error h _
  have hError : ((namesFor project request).run.run w).1 = .error failure := by rw [hNames]
  rw [Job.run_bind_of_error hError, hNames]

end Route

namespace Command

/-- The command is one of those on routes. -/
def IsRoute : Command → Prop
  | createRoute .. | addRoute .. | registerRoute .. => True
  | createComponent .. => False

theorem run_carryOut_of_error {command : Command} (hRoute : command.IsRoute)
    (h : ((Project.moduleRoot project.moduleFile).run.run w).1 = .error failure) :
    (command.carryOut project).run.run w =
      (.error failure, ((Project.moduleRoot project.moduleFile).run.run w).2) := by
  cases command with
  | createRoute request force noRegister => exact Route.run_namesFor_bind_of_error h _
  | addRoute request => exact Route.run_namesFor_bind_of_error h _
  | registerRoute resource => exact Route.run_namesFor_bind_of_error h _
  | createComponent path name noStyle force => cases hRoute

end Command

namespace Program

/-- The exit code is that of a failure, and neither the disk nor the standard output has changed. -/
structure Aborted (w : World) (outcome : Nat × World) : Prop where
  exitCode : outcome.1 = 1
  untouched : Untouched w outcome.2

/-- A job that fails without a trace makes a run that does. -/
theorem aborted_conclude {job : Job Unit} (hError : (job.run.run w).1 = .error failure)
    (hUntouched : Untouched w (job.run.run w).2) : Aborted w ((conclude job).run w) := by
  have hReport : (do
      Plan.log .program .error s!"Command execution failed: {failure.report}"
      Plan.complain s!"Error: {failure.headline}" : Plan Unit).Keeps Untouched :=
    Plan.keeps_bind (Plan.untouched_log _ _ _) fun _ => Plan.untouched_complain _
  rw [conclude, Plan.run_bind, hError]
  exact ⟨rfl, IsTrans.trans _ _ _ hUntouched (hReport _)⟩

variable {around : Environment} {invocation : Invocation}

theorem aborted_of_unloadable
    (h : w.disk.Unloadable around.userSettings around.workingDirectory invocation.settings) :
    Aborted w ((conclude (job around invocation)).run w) := by
  obtain ⟨failure, hError⟩ := Project.exists_load_error_iff.mpr h
  have hRun := Job.run_bind_of_error hError fun project => invocation.command.carryOut project
  rw [← Command.job_eq_load_bind] at hRun
  apply aborted_conclude (by rw [hRun])
  rw [hRun]
  exact Project.keeps_load Plan.untouched_log _ _ _ w

theorem aborted_of_moduleless (hRoute : invocation.command.IsRoute)
    (hProject : ((Project.load around.userSettings around.workingDirectory
      invocation.settings).run.run w).1 = .ok project)
    (h : w.disk.Moduleless project.moduleFile) :
    Aborted w ((conclude (job around invocation)).run w) := by
  have hLoaded : Untouched w ((Project.load around.userSettings around.workingDirectory
      invocation.settings).run.run w).2 := Project.keeps_load Plan.untouched_log _ _ _ w
  -- The module file is read after the settings, on a disk that is still the same.
  rw [← hLoaded.disk] at h
  obtain ⟨failure, hError⟩ := Project.exists_moduleRoot_error_iff.mpr h
  have hRun := Job.run_bind_of_ok hProject fun project => invocation.command.carryOut project
  rw [← Command.job_eq_load_bind, Command.run_carryOut_of_error hRoute hError] at hRun
  apply aborted_conclude (by rw [hRun])
  rw [hRun]
  exact IsTrans.trans _ _ _ hLoaded (Project.keeps_moduleRoot _ _)

/-- Where the settings or the module cannot be found, and only then, the loading of the project or the
look for the module fails, and the run of the whole program ends there. -/
theorem aborted_of_fails {words : List Text} {w : World}
    (hRead : Invocation.read words around.namedSettings = .ok invocation) :
    let load := Project.load around.userSettings around.workingDirectory invocation.settings
    let unloadable :=
      w.disk.Unloadable around.userSettings around.workingDirectory invocation.settings
    ((∃ failure, (load.run.run w).1 = .error failure) ↔ unloadable) ∧
    (∀ project : Project,
      (∃ failure, ((Project.moduleRoot project.moduleFile).run.run w).1 = .error failure) ↔
        w.disk.Moduleless project.moduleFile) ∧
    ((unloadable ∨ invocation.command.IsRoute ∧
        (∃ project, (load.run.run w).1 = .ok project ∧ w.disk.Moduleless project.moduleFile)) →
      ∃ threshold plan, answer around words = .execute threshold plan ∧
        Aborted w (plan.run w)) := by
  intro load unloadable
  refine ⟨Project.exists_load_error_iff, fun project => Project.exists_moduleRoot_error_iff, ?_⟩
  intro hFails
  have hAnswer : ∃ threshold, answer around words =
      .execute threshold (conclude (job around invocation)) := by
    rw [answer, hRead]
    exact ⟨_, rfl⟩
  obtain ⟨threshold, hAnswer⟩ := hAnswer
  refine ⟨threshold, _, hAnswer, ?_⟩
  rcases hFails with hUnloadable | ⟨hRoute, project, hProject, hModuleless⟩
  · exact aborted_of_unloadable hUnloadable
  · exact aborted_of_moduleless hRoute hProject hModuleless

/-- A settings file that is named and missing, and a module file without a module directive, both in
a tree with the files of a route. -/
theorem aborted_of_missing_settings :
    let around : Environment :=
      { workingDirectory := Path.ofString "/w", userSettings := Path.ofString "/u" }
    let route : Location :=
      ["w".toList, "server".toList, "routes".toList, "user.routes.go".toList]
    let w : World :=
      { disk := ⟨[(route, .file (.text (NewFile.route (RouteNames.ofRequest
            { resource := "user".toList } "m".toList)))), (route.take 3, .directory),
          (["w".toList, "server".toList, "go.mod".toList], .file (.text "// module m\ngo 1.24\n".toList)),
          (route.take 2, .directory), (route.take 1, .directory)]⟩
        messages := [] }
    let misnamed := ["--config", "x.toml", "route", "new", "user"].map String.toList
    let moduleless := ["route", "add", "user"].map String.toList
    let creation : Invocation :=
      { command := .createRoute { resource := "user".toList } false false
        settings := some (Path.ofString "x.toml"), verbosity := 0 }
    let addition : Invocation :=
      { command := .addRoute { resource := "user".toList }, settings := none, verbosity := 0 }
    (Invocation.read misnamed around.namedSettings = .ok creation ∧
      ∃ threshold plan, answer around misnamed = .execute threshold plan ∧ Aborted w (plan.run w)) ∧
    (Invocation.read moduleless around.namedSettings = .ok addition ∧
      ∃ threshold plan,
        answer around moduleless = .execute threshold plan ∧ Aborted w (plan.run w)) := by
  intro around route w misnamed moduleless creation addition
  have hMisnamed : Invocation.read misnamed around.namedSettings = .ok creation := by
    decide +kernel
  have hMissing : w.disk.Unloadable around.userSettings around.workingDirectory
      creation.settings := .missing rfl (by decide +kernel)
  have hModuleless : Invocation.read moduleless around.namedSettings = .ok addition := by
    decide +kernel
  let project : Project := { root := Path.ofString "/w", layout := Layer.empty.toLayout }
  have hLoad : ((Project.load around.userSettings around.workingDirectory
      addition.settings).run.run w).1 = .ok project := rfl
  have hModule : w.disk.Moduleless project.moduleFile :=
    moduleAt?_eq_none_iff.mp (by decide +kernel)
  exact ⟨⟨hMisnamed, (aborted_of_fails hMisnamed).2.2 (Or.inl hMissing)⟩,
    ⟨hModuleless, (aborted_of_fails hModuleless).2.2 (Or.inr ⟨trivial, project, hLoad, hModule⟩)⟩⟩

end Program

end Scaffold
