import Scaffold.Files
import Scaffold.Route.Addition
import Scaffold.Route.NewFile

namespace Scaffold

namespace Files

/-- Prints each of the texts, which are about a canonical form, as a warning. -/
def warn : List String → Plan Unit
  | [] => return
  | text :: rest => do
    Plan.log .canonicalForm .warning text
    warn rest

/-- Tries the addition on the text of an existing file. Only if something was added is the file
replaced, at once. Messages call the addition `what`, and `warnings` gives what there is to say about
the text beforehand. -/
def extend (p : Path) (what : String) (warnings : Text → List String)
    (addition : Text → Except Cause Addition) : Job Addition := do
  unless ← isFile p do
    Job.fail (.fileMissing p)
  let text ← readText p
  warn (warnings text)
  match addition text with
  | .error cause => throw ⟨[s!"Failed to add {what} to {p}"], cause⟩
  | .ok .alreadyPresent => return .alreadyPresent
  | .ok (.applied updated) =>
    replaceText p updated
    Plan.log .addition .info s!"Added {what} to {p}"
    return .applied updated

end Files

namespace RouteFile

/-- The warning about a text that declares no route group. -/
def groupWarnings (t : Text) : List String :=
  if declaresGroup t then []
  else ["No route group declaration found; route bindings are left unsorted."]

/-- The warnings when the binding is added to the text: about the text itself, and about the text
with the binding in it. -/
def bindingWarnings (names : RouteNames) (t : Text) : List String :=
  groupWarnings t ++
    if (ofText t).binds names.binding then []
    else
      match spliced t names.binding with
      | .ok grown => groupWarnings grown
      | .error _ => []

/-- Adds the binding to the route file at the path. -/
def addBindingAt (p : Path) (names : RouteNames) : Job Addition :=
  Files.extend p "route binding" (bindingWarnings names) fun t => addBinding t names

end RouteFile

/-- Adds the handler to the controller file at the path. -/
def ControllerFile.addStubAt (p : Path) (names : RouteNames) : Job Addition :=
  Files.extend p "handler stub" (fun _ => []) fun t =>
    .ok (addStub t names.handler (NewFile.stub names))

/-- Registers the route group in the registry file at the path. -/
def Registry.registerAt (p : Path) (names : RouteNames) : Job Addition :=
  Files.extend p "route group registration" (fun _ => []) fun t => register t names

end Scaffold
