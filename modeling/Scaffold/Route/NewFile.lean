import Scaffold.Route.Names
import Scaffold.Template

/-!
The texts of new files. A controller file starts with the handler of its first route, and a handler
that is added later is the same stub, so all generated handlers of a controller file have one shape.
-/

namespace Scaffold

/-- The names that the templates use. -/
inductive NameField where
  | titled
  | groupVar
  | urlPath
  | method
  | handler
  | moduleRoot

/-- The name that the field stands for. -/
def RouteNames.value (names : RouteNames) : NameField → Text
  | .titled => names.titled
  | .groupVar => names.groupVar
  | .urlPath => names.urlPath
  | .method => names.method
  | .handler => names.handler
  | .moduleRoot => names.moduleRoot

namespace NewFile

/-- The template of a route file. -/
def routeTemplate : Template NameField := [
  .literal "package routes\n\nimport (\n\t\"github.com/gofiber/fiber/v2\"\n\t\"".toList,
  .gap .moduleRoot, .literal "/controllers\"\n)\n\nfunc ".toList,
  .gap .titled, .literal "Routes(api fiber.Router) \x7b\n\t".toList,
  .gap .groupVar, .literal " := api.Group(\"/".toList, .gap .urlPath, .literal "\")\n\t".toList,
  .gap .groupVar, .literal ".".toList, .gap .method,
  .literal "(\"/\", controllers.".toList, .gap .handler, .literal ")\n\x7d\n".toList]

/-- The template of a handler function. -/
def stubTemplate : Template NameField := [
  .literal "func ".toList, .gap .handler,
  .literal "(c *fiber.Ctx) error \x7b\n\treturn c.Status(fiber.StatusOK)".toList,
  .literal ".JSON(fiber.Map\x7b\"status\": \"success\", \"message\": \"".toList,
  .gap .handler, .literal " called\"\x7d)\n\x7d\n".toList]

/-- The beginning of a controller file. -/
def controllerHeader : Text :=
  "package controllers\n\nimport (\n\t\"github.com/gofiber/fiber/v2\"\n)\n".toList

/-- The text of a new route file. -/
def route (names : RouteNames) : Text :=
  routeTemplate.fill names.value

/-- The text of a handler function. -/
def stub (names : RouteNames) : Text :=
  stubTemplate.fill names.value

/-- The text of a new controller file. -/
def controller (names : RouteNames) : Text :=
  controllerHeader ++ '\n' :: stub names

end NewFile

end Scaffold
