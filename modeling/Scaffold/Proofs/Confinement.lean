import Scaffold.Program
import Scaffold.Proofs.Component
import Scaffold.Proofs.Route.Commands
import Scaffold.Proofs.Settings.Looking

/-! Where the commands change files. Each request that writes has one path, and every file stays as it
is that does not stand where this path leads. So a command changes files at the places of its
targets only, whatever is there and with or without force. -/

namespace Scaffold

open FileTree

/-- Outside the places the second world has the files of the first one, with the same contents. -/
def SameOutside (places : Location → Prop) (w w' : World) : Prop :=
  ∀ l content, ¬ places l →
    (w'.disk.lookup l = some (.file content) ↔ w.disk.lookup l = some (.file content))

variable {places : Location → Prop} {α : Type}

instance : IsPreorder World (SameOutside places) where
  refl _ _ _ _ := Iff.rfl
  trans _ _ _ h h' l content hl := (h' l content hl).trans (h l content hl)

namespace Request

theorem sameOutside_tell (message : Message) : (tell message).Keeps (SameOutside places) :=
  fun _ _ _ _ => Iff.rfl

theorem sameOutside_makeDirectories (p : Path) : (makeDirectories p).Keeps (SameOutside places) :=
  fun w l content _ => (grows_makeDirectories w.disk p.ancestors).sameFiles l content

theorem sameOutside_write {p : Path} (h : places p.location) (text : Text) :
    (write p text).Keeps (SameOutside places) := by
  intro w l content hl
  have hne : l ≠ p.location := fun hEq => hl (hEq ▸ h)
  rw [answer]
  cases hWrite : w.disk.write p text with
  | error fault => rfl
  | ok new => simp only [lookup_write_of_ne hWrite hne]

theorem sameOutside_replace {p : Path} (h : places p.location) (text : Text) :
    (replace p text).Keeps (SameOutside places) := by
  intro w l content hl
  have hne : l ≠ p.location := fun hEq => hl (hEq ▸ h)
  rw [answer]
  cases hReplace : w.disk.replace p text with
  | error fault => rfl
  | ok new => simp only [lookup_replace_of_ne hReplace hne]

end Request

namespace Plan

theorem sameOutside_log (origin : Origin) (severity : Severity) (text : String) :
    (log origin severity text).Keeps (SameOutside places) :=
  Request.sameOutside_tell (.log origin severity text)

theorem sameOutside_say (text : String) : (say text).Keeps (SameOutside places) :=
  Request.sameOutside_tell (.result text)

theorem sameOutside_complain (text : String) : (complain text).Keeps (SameOutside places) :=
  Request.sameOutside_tell (.complaint text)

end Plan

open Plan

namespace Files

theorem sameOutside_ensureDirectory (p : Path) : (ensureDirectory p).Keeps (SameOutside places) := by
  refine Job.keeps_bind (Job.keeps_lift (keeps_kind p)) fun found => ?_
  match found with
  | none =>
      refine Job.keeps_bind (Job.keeps_require _ (Request.sameOutside_makeDirectories p)) fun _ => ?_
      exact Job.keeps_lift (sameOutside_log _ _ _)
  | some .file => exact Job.keeps_throw _
  | some .directory => exact Job.keeps_pure _

theorem sameOutside_writeNew {p : Path} (h : places p.location) (text : Text) (overwrite : Bool) :
    (writeNew p text overwrite).Keeps (SameOutside places) := by
  have hWrite := Job.keeps_bind
    (Job.keeps_require (failure s!"Failed to write to file {p.quoted}")
      (Request.sameOutside_write h text))
    fun _ => Job.keeps_lift (sameOutside_log .files .info s!"Wrote new file: {p.quoted}")
  refine Job.keeps_bind (Job.keeps_lift (keeps_present p)) fun found => ?_
  dsimp only
  split
  · exact Job.keeps_throw_bind _ _
  · split
    · exact Job.keeps_bind (sameOutside_ensureDirectory _) fun _ => hWrite
    · exact hWrite

theorem sameOutside_warn (warnings : List String) : (warn warnings).Keeps (SameOutside places) := by
  induction warnings with
  | nil => exact Plan.keeps_pure ()
  | cons text rest ih => exact Plan.keeps_bind (sameOutside_log _ _ _) fun _ => ih

theorem sameOutside_extend {p : Path} (h : places p.location) (what : String)
    (warnings : Text → List String) (addition : Text → Except Cause Addition) :
    (extend p what warnings addition).Keeps (SameOutside places) := by
  refine Job.keeps_bind (Job.keeps_lift (keeps_isFile p)) fun found => ?_
  cases found with
  | true =>
      refine Job.keeps_bind (keeps_readText p) fun text => ?_
      refine Job.keeps_bind (Job.keeps_lift (sameOutside_warn _)) fun _ => ?_
      match addition text with
      | .error cause => exact Job.keeps_throw _
      | .ok .alreadyPresent => exact Job.keeps_pure _
      | .ok (.applied updated) =>
          refine Job.keeps_bind
            (Job.keeps_require _ (Request.sameOutside_replace h updated)) fun _ => ?_
          exact Job.keeps_bind (Job.keeps_lift (sameOutside_log _ _ _)) fun _ => Job.keeps_pure _
  | false => exact Job.keeps_throw_bind _ _

end Files

namespace Tally

theorem sameOutside_record (tally : Tally) (p : Path) {operation : Job α}
    (h : operation.Keeps (SameOutside places)) (success : α → String) :
    (tally.record p operation success).Keeps (SameOutside places) := by
  refine Plan.keeps_bind h fun outcome => ?_
  cases outcome with
  | ok value => exact Plan.keeps_bind (sameOutside_say _) fun _ => Plan.keeps_pure _
  | error failure =>
      dsimp only
      split <;> exact Plan.keeps_bind (sameOutside_log _ _ _) fun _ =>
        Plan.keeps_bind (sameOutside_complain _) fun _ => Plan.keeps_pure _

theorem sameOutside_finish (tally : Tally) : tally.finish.Keeps (SameOutside places) := by
  rw [finish]
  split
  · exact Job.keeps_throw _
  · exact Job.keeps_pure _

end Tally

namespace Route

variable {project : Project} {request : RouteRequest} {resource : Text}

theorem resource_of_namesFor {names : RouteNames} {w : World}
    (h : ((namesFor project request).run.run w).1 = .ok names) :
    names.resource = request.resource.trim := by
  rw [(Job.run_eq_onDisk _ w).1] at h
  have hNames := (onDisk_namesFor project request w.disk).1
  rw [h] at hNames
  obtain ⟨root, -, rfl⟩ := Option.map_eq_some_iff.mp hNames.symm
  rfl

theorem sameOutside_namesFor (project : Project) (request : RouteRequest) :
    (namesFor project request).Keeps (SameOutside places) :=
  Job.keeps_bind (Project.keeps_moduleRoot _) fun _ => Job.keeps_pure _

theorem sameOutside_recordRegistration (tally : Tally) (names : RouteNames)
    (h : places project.registryFile.location) :
    (recordRegistration tally project names).Keeps (SameOutside places) :=
  Tally.sameOutside_record _ _ (Files.sameOutside_extend h _ _ _) _

theorem sameOutside_create (force noRegister : Bool)
    (hRoute : places (project.routeFile request.resource.trim).location)
    (hController : places (project.controllerFile request.resource.trim).location)
    (hRegistry : noRegister = false → places project.registryFile.location) :
    (create project request force noRegister).Keeps (SameOutside places) := by
  refine Job.keeps_bind_of_ok (sameOutside_namesFor _ _) fun names w hNames => ?_
  rw [← resource_of_namesFor hNames] at hRoute hController
  refine Job.keeps_bind (Job.keeps_lift (sameOutside_log _ _ _)) fun _ => ?_
  refine Job.keeps_bind (Job.keeps_lift (Tally.sameOutside_record _ _
    (Files.sameOutside_writeNew hRoute _ _) _)) fun tally => ?_
  refine Job.keeps_bind (Job.keeps_lift (Tally.sameOutside_record _ _
    (Files.sameOutside_writeNew hController _ _) _)) fun tally => ?_
  cases noRegister with
  | true =>
      exact Job.keeps_bind (Job.keeps_lift (sameOutside_log _ _ _)) fun _ =>
        Tally.sameOutside_finish _
  | false =>
      exact Job.keeps_bind (Job.keeps_lift (sameOutside_recordRegistration _ _ (hRegistry rfl)))
        fun tally => Tally.sameOutside_finish tally

theorem sameOutside_add (hRoute : places (project.routeFile request.resource.trim).location)
    (hController : places (project.controllerFile request.resource.trim).location) :
    (add project request).Keeps (SameOutside places) := by
  refine Job.keeps_bind_of_ok (sameOutside_namesFor _ _) fun names w hNames => ?_
  rw [← resource_of_namesFor hNames] at hRoute hController
  refine Job.keeps_bind (Job.keeps_lift (sameOutside_log _ _ _)) fun _ => ?_
  refine Job.keeps_bind (Job.keeps_lift (Tally.sameOutside_record _ _
    (Files.sameOutside_extend hRoute _ _ _) _)) fun tally => ?_
  refine Job.keeps_bind (Job.keeps_lift (Tally.sameOutside_record _ _
    (Files.sameOutside_extend hController _ _ _) _)) fun tally => ?_
  exact Tally.sameOutside_finish _

theorem sameOutside_register (resource : Text) (h : places project.registryFile.location) :
    (register project resource).Keeps (SameOutside places) := by
  refine Job.keeps_bind (sameOutside_namesFor _ _) fun names => ?_
  exact Job.keeps_bind (Job.keeps_lift (sameOutside_recordRegistration _ _ h))
    fun tally => Tally.sameOutside_finish tally

end Route

namespace Component

theorem sameOutside_firstPresent (ps : List Path) :
    (firstPresent ps).Keeps (SameOutside places) := by
  induction ps with
  | nil => exact Plan.keeps_pure none
  | cons p rest ih =>
      refine Plan.keeps_bind (Files.keeps_present p) fun found => ?_
      split
      · exact Plan.keeps_pure _
      · exact ih

theorem sameOutside_create {project : Project} {path name : Text} (noStyle force : Bool)
    (hSource : places (sourceFile project path name).location)
    (hStyle : noStyle = false → places (styleFile project path name).location) :
    (create project path name noStyle force).Keeps (SameOutside places) := by
  refine Job.keeps_bind (Job.keeps_lift (sameOutside_log _ _ _)) fun _ => ?_
  have hWrites : (do
      Job.within s!"Failed to create component '{name.str}'"
        (Files.writeNew (sourceFile project path name) (source name) force)
      Plan.say s!"Created {sourceFile project path name}"
      unless noStyle do
        Job.within s!"Failed to create style module for '{name.str}'"
          (Files.writeNew (styleFile project path name) style force)
        Plan.say s!"Created {styleFile project path name}"
      Plan.say "Component created successfully" : Job Unit).Keeps (SameOutside places) := by
    refine Job.keeps_bind (Job.keeps_within _ (Files.sameOutside_writeNew hSource _ _)) fun _ => ?_
    refine Job.keeps_bind (Job.keeps_lift (sameOutside_say _)) fun _ => ?_
    cases noStyle with
    | true => exact Job.keeps_lift (sameOutside_say _)
    | false =>
        refine Job.keeps_bind
          (Job.keeps_within _ (Files.sameOutside_writeNew (hStyle rfl) _ _)) fun _ => ?_
        exact Job.keeps_bind (Job.keeps_lift (sameOutside_say _)) fun _ =>
          Job.keeps_lift (sameOutside_say _)
  cases force with
  | true => exact hWrites
  | false =>
      refine Job.keeps_bind (Job.keeps_lift (sameOutside_firstPresent _)) fun found => ?_
      cases found with
      | none => exact hWrites
      | some p =>
          exact Job.keeps_bind (Job.keeps_within _ (Job.keeps_throw _)) fun _ => hWrites

end Component

namespace Command

/-- What the command does in a project. -/
def carryOut (project : Project) : Command → Job Unit
  | createRoute request force noRegister => Route.create project request force noRegister
  | addRoute request => Route.add project request
  | registerRoute resource => Route.register project resource
  | createComponent path name noStyle force => Component.create project path name noStyle force

theorem job_eq_load_bind (around : Program.Environment) (invocation : Invocation) :
    Program.job around invocation =
      Project.load around.userSettings around.workingDirectory invocation.settings >>=
        fun project => invocation.command.carryOut project := by
  rw [Program.job]
  cases invocation.command <;> rfl

/-- The files that the command writes or changes. -/
def targets (project : Project) : Command → List Path
  | createRoute request _ noRegister =>
    [project.routeFile request.resource.trim, project.controllerFile request.resource.trim] ++
      if noRegister then [] else [project.registryFile]
  | addRoute request =>
    [project.routeFile request.resource.trim, project.controllerFile request.resource.trim]
  | registerRoute _ => [project.registryFile]
  | createComponent path name noStyle _ =>
    Component.sourceFile project path name ::
      if noStyle then [] else [Component.styleFile project path name]

/-- A command changes files at the places of its targets only. -/
theorem sameOutside_carryOut {project : Project} {command : Command}
    (h : ∀ p ∈ command.targets project, places p.location) :
    (command.carryOut project).Keeps (SameOutside places) := by
  cases command with
  | createRoute request force noRegister =>
      apply Route.sameOutside_create
      · exact h _ (by simp [targets])
      · exact h _ (by simp [targets])
      · rintro rfl
        exact h _ (by simp [targets])
  | addRoute request =>
      apply Route.sameOutside_add
      · exact h _ (by simp [targets])
      · exact h _ (by simp [targets])
  | registerRoute resource => exact Route.sameOutside_register resource (h _ (by simp [targets]))
  | createComponent path name noStyle force =>
      apply Component.sameOutside_create
      · exact h _ (by simp [targets])
      · rintro rfl
        exact h _ (by simp [targets])

end Command

end Scaffold
