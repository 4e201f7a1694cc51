import Scaffold.Route.InPlace
import Scaffold.Settings.Project
import Scaffold.Tally

/-!
The commands on routes. The names of the route need the module file, which is read before anything is
touched; the operations on the route file, the controller file and the registry file then
follow one after the other, and none of them depends on how another one ended.
-/

namespace Scaffold.Route

/-- The names for a request in the project. -/
def namesFor (project : Project) (request : RouteRequest) : Job RouteNames := do
  return RouteNames.ofRequest request (← Project.moduleRoot project.moduleFile)

/-- Registers the route group, as one operation of a command. -/
def recordRegistration (tally : Tally) (project : Project) (names : RouteNames) : Plan Tally :=
  let p := project.registryFile
  tally.record p (Registry.registerAt p names) fun
    | .applied _ => s!"Registered {names.registration.str} in {p}"
    | .alreadyPresent => s!"Skipped {p}: {names.registration.str} is already registered"

/-- Creates the route file and the controller file of a resource and, unless told not to, registers
the route group. -/
def create (project : Project) (request : RouteRequest) (force noRegister : Bool) : Job Unit := do
  let names ← namesFor project request
  Plan.log .newRoute .info
    s!"Creating route '{names.titled.str}' ({names.method.str} {names.urlPath.str})"
  let routeFile := project.routeFile names.resource
  let tally ← ({} : Tally).record routeFile
    (Files.writeNew routeFile (NewFile.route names) force)
    fun _ => s!"Route file created successfully: {routeFile}"
  let controllerFile := project.controllerFile names.resource
  let tally ← tally.record controllerFile
    (Files.writeNew controllerFile (NewFile.controller names) force)
    fun _ => s!"Controller file created successfully: {controllerFile}"
  if noRegister then
    Plan.log .newRoute .info "Skipping route registry update (--no-register)."
    tally.finish
  else
    (← recordRegistration tally project names).finish

/-- Adds a route to the route file of a resource and its handler to the controller file. -/
def add (project : Project) (request : RouteRequest) : Job Unit := do
  let names ← namesFor project request
  Plan.log .addRoute .info s!"Adding route: {names.binding.str}"
  let routeFile := project.routeFile names.resource
  let tally ← ({} : Tally).record routeFile (RouteFile.addBindingAt routeFile names) fun
    | .applied _ => s!"Successfully added new route to {routeFile}"
    | .alreadyPresent => s!"Skipped {routeFile}: route already exists"
  let controllerFile := project.controllerFile names.resource
  let tally ← tally.record controllerFile (ControllerFile.addStubAt controllerFile names) fun
    | .applied _ => s!"Successfully added new controller function to {controllerFile}"
    | .alreadyPresent =>
      s!"Skipped {controllerFile}: function {names.handler.str} already exists"
  tally.finish

/-- Registers the route group of a resource. -/
def register (project : Project) (resource : Text) : Job Unit := do
  let names ← namesFor project { resource }
  (← recordRegistration {} project names).finish

end Scaffold.Route
