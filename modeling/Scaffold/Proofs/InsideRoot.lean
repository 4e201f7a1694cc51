import Scaffold.Proofs.Confinement
import Scaffold.Proofs.Disk.Below
import Scaffold.Proofs.Route.Targets

/-! The files of a project stand below its root. Names that are put behind a directory stay below it
unless they are absolute paths: the resource of a route and the name of a component are not stripped of
leading slashes, so either of them can leave the directory that the layout gives, and the project. -/

namespace Scaffold

open Scaffold.Path

/-- The names that the command makes paths of are relative and never lead upwards. -/
def Command.IsDownward : Command → Prop
  | createRoute request _ _ => request.resource.trim.IsDownward
  | addRoute request => request.resource.trim.IsDownward
  | registerRoute _ => True
  | createComponent path name _ _ => up ∉ (Path.mk path).steps ∧ name.IsDownward

namespace Path

theorem isBelow_join_lower_iff (base : Path) (resource : Text) {extension : Text}
    (h : IsExtension extension) :
    (base.join (resource.lower ++ extension)).IsBelow base ↔
      (resource.head? = some '/' → (Path.mk (resource.lower ++ extension)).IsBelow base) := by
  have hHead : (resource.lower ++ extension).head? = some '/' ↔ resource.head? = some '/' := by
    rw [← (Text.recased_lower resource).head?_eq_slash_iff]
    cases resource.lower with
    | nil => exact iff_of_false (fun hHead => h.noSlash (List.mem_of_head? hHead)) nofun
    | cons c rest => rfl
  rw [isBelow_join_iff, hHead]

theorem prefix_location_join_lower {root base : Path} {resource extension : Text}
    (hBase : root.location <+: base.location) (hResource : resource.IsDownward)
    (h : IsExtension extension) :
    root.location <+: (base.join (resource.lower ++ extension)).location :=
  hBase.trans
    (prefix_location_join base (Text.isDownward_append (Text.isDownward_lower hResource) h))

end Path

namespace Component

variable {project : Project} {path name : Text}

theorem isBelow_directory_iff (project : Project) (path name : Text) :
    (directory project path name).IsBelow project.componentsDir ↔
      (name.head? = some '/' → (Path.mk name).IsBelow project.componentsDir) := by
  rw [directory]
  by_cases h : name.head? = some '/'
  · simp [join_of_absolute _ h, h]
  · apply iff_of_true
    · exact (isBelow_join _ h).trans (isBelow_join _ (Text.head?_stripChar path))
    · exact fun hAbsolute => absurd hAbsolute h

theorem prefix_location_directory (hBase : project.root.location <+: project.componentsDir.location)
    (hPath : up ∉ (Path.mk path).steps) (hName : name.IsDownward) :
    project.root.location <+: (directory project path name).location := by
  rw [directory]
  have hPlace := prefix_location_join project.componentsDir (Text.isDownward_stripChar hPath)
  exact (hBase.trans hPlace).trans (prefix_location_join _ hName)

end Component

/-- In a project whose layout leads downwards, so do the paths of all targets. -/
theorem Command.prefix_location_of_mem_targets {project : Project} {command : Command}
    (hLayout : ∀ key, (project.layout key).IsDownward) (hCommand : command.IsDownward) {p : Path}
    (hMem : p ∈ command.targets project) : project.root.location <+: p.location := by
  have hPlace (key : LayoutKey) : project.root.location <+: (project.place key).location :=
    prefix_location_join project.root (hLayout key)
  have hRoute {resource : Text} (hResource : resource.IsDownward) :
      project.root.location <+: (project.routeFile resource).location :=
    prefix_location_join_lower (hPlace .routesDir) hResource Project.isExtension_routes
  have hController {resource : Text} (hResource : resource.IsDownward) :
      project.root.location <+: (project.controllerFile resource).location :=
    prefix_location_join_lower (hPlace .controllersDir) hResource Project.isExtension_controller
  have hRegistry := hPlace .registryFile
  cases command with
  | createRoute request force noRegister =>
      rw [targets, List.mem_append] at hMem
      rcases hMem with hMem | hMem
      · rcases List.mem_pair.mp hMem with rfl | rfl
        · exact hRoute hCommand
        · exact hController hCommand
      · split at hMem
        · cases hMem
        · obtain rfl := List.mem_singleton.mp hMem
          exact hRegistry
  | addRoute request =>
      rcases List.mem_pair.mp hMem with rfl | rfl
      · exact hRoute hCommand
      · exact hController hCommand
  | registerRoute resource =>
      obtain rfl := List.mem_singleton.mp hMem
      exact hRegistry
  | createComponent path name noStyle force =>
      obtain ⟨hPath, hName⟩ := hCommand
      have hHome := Component.prefix_location_directory (hPlace .componentsDir) hPath hName
      have hFile {extension : Text} (h : IsExtension extension) :
          project.root.location <+:
            ((Component.directory project path name).join (name ++ extension)).location :=
        hHome.trans (prefix_location_join _ (Text.isDownward_append hName h))
      rw [targets, List.mem_cons] at hMem
      rcases hMem with rfl | hMem
      · exact hFile Component.isExtension_source
      · split at hMem
        · cases hMem
        · obtain rfl := List.mem_singleton.mp hMem
          exact hFile Component.isExtension_style

/-- The paths that leave their directory are those that a resource or a name with a slash in front
makes absolute. Without such a name, in a project whose layout leads downwards, no command changes or
creates a file outside the root. -/
theorem isBelow_iff (project : Project) (resource path name : Text) :
    ((project.routeFile resource).IsBelow (project.place .routesDir) ↔
      (resource.head? = some '/' →
        (Path.mk (resource.lower ++ ".routes.go".toList)).IsBelow (project.place .routesDir))) ∧
    ((project.controllerFile resource).IsBelow (project.place .controllersDir) ↔
      (resource.head? = some '/' →
        (Path.mk (resource.lower ++ ".controller.go".toList)).IsBelow
          (project.place .controllersDir))) ∧
    ((Component.directory project path name).IsBelow project.componentsDir ↔
      (name.head? = some '/' → (Path.mk name).IsBelow project.componentsDir)) ∧
    ((∀ key, (project.layout key).IsDownward) → ∀ command : Command, command.IsDownward →
      ∀ w l content, ¬ project.root.location <+: l →
        (((command.carryOut project).run.run w).2.disk.lookup l = some (.file content) ↔
          w.disk.lookup l = some (.file content))) := by
  refine ⟨?_, ?_, Component.isBelow_directory_iff project path name, ?_⟩
  · exact isBelow_join_lower_iff _ resource Project.isExtension_routes
  · exact isBelow_join_lower_iff _ resource Project.isExtension_controller
  · intro hLayout command hCommand w l content hOutside
    have hKeeps : (command.carryOut project).Keeps (SameOutside (project.root.location <+: ·)) :=
      Command.sameOutside_carryOut fun p hMem =>
        Command.prefix_location_of_mem_targets hLayout hCommand hMem
    exact hKeeps w l content hOutside

/-- A resource with a slash in front. It has no step upwards, the layout is the standard one, and the
path of the route file is not below the directory of the route files. -/
theorem not_isBelow_routeFile :
    let project : Project := { root := Path.ofString "/p", layout := Layout.standard }
    let resource := "/tmp/x".toList
    (∀ key, (project.layout key).IsDownward) ∧ up ∉ (Path.mk resource).steps ∧
      ¬ (project.routeFile resource).IsBelow (project.place .routesDir) := by
  intro project resource
  refine ⟨fun key => ?_, by decide +kernel, by decide +kernel⟩
  cases key <;> decide +kernel

end Scaffold
