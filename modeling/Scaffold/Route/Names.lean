import Scaffold.Text.Blank
import Scaffold.Text.Case

namespace Scaffold

/-- What a user asks for. A blank override counts as no override. -/
structure RouteRequest where
  resource : Text
  method : Option Text := none
  function : Option Text := none
  path : Option Text := none
  deriving DecidableEq, Inhabited

/-- The names of one route and its handler. -/
structure RouteNames where
  /-- The resource as requested, without outer blanks. -/
  resource : Text
  /-- The resource in title case, as in `UserRoutes`. -/
  titled : Text
  /-- The variable of the route group, as in `userRoutes`. -/
  groupVar : Text
  /-- The path of the route in its group. An override loses its leading slashes; a resource that
  starts with a slash keeps it. -/
  urlPath : Text
  /-- The router method, as in `Get`. -/
  method : Text
  /-- The name of the handler function, as in `GetUser`. -/
  handler : Text
  /-- The path of the module that the generated code belongs to. -/
  moduleRoot : Text
  deriving DecidableEq, Inhabited

namespace RouteNames

/-- The names for a request in the given module. -/
def ofRequest (request : RouteRequest) (moduleRoot : Text) : RouteNames :=
  let resource := request.resource.trim
  let titled := resource.title
  { resource
    titled
    groupVar := resource.lower ++ "Routes".toList
    urlPath :=
      match request.path.bind Text.nonBlank? with
      | some path => path.dropLeading '/'
      | none => resource.lower
    method := ((request.method.bind Text.nonBlank?).getD "get".toList).title
    handler := (request.function.bind Text.nonBlank?).getD ("Get".toList ++ titled)
    moduleRoot }

/-- The statement that binds the handler to the route, without indentation. -/
def binding (names : RouteNames) : Text :=
  names.groupVar ++ '.' :: names.method ++ "(\"/".toList ++ names.urlPath
    ++ "\", controllers.".toList ++ names.handler ++ [')']

/-- The call that hands the router to the route group of the resource. -/
def registration (names : RouteNames) : Text :=
  names.titled ++ "Routes(api)".toList

example : (ofRequest { resource := " User ".toList } []).binding
    = "userRoutes.Get(\"/user\", controllers.GetUser)".toList := by decide +kernel

end RouteNames

end Scaffold
