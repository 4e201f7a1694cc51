import Scaffold.CommandLine.Grammar
import Scaffold.Disk.Path
import Scaffold.Route.Names

/-!
The command line of the program. Its grammar is one value, and an invocation is what the levels of a
command line mean: the command with its arguments, the settings file that was named, and how
much is to be logged. Of options that may stand at every level the innermost occurrence counts.
-/

namespace Scaffold

open CommandLine

/-- A command with its arguments. -/
inductive Command where
  | createRoute (request : RouteRequest) (force noRegister : Bool)
  | addRoute (request : RouteRequest)
  | registerRoute (resource : Text)
  | createComponent (path name : Text) (noStyle force : Bool)
  deriving DecidableEq

/-- What a command line asks for. -/
structure Invocation where
  command : Command
  /-- The settings file to use instead of the one that would be found. -/
  settings : Option Path
  /-- How often more logging was asked for. -/
  verbosity : Nat
  deriving DecidableEq

namespace Invocation

/-- The options that may stand at every level. -/
def globalOptions : List OptionRule := [
  { key := .verbose, short := some 'v', long := ["verbose"], arity := .counted },
  { key := .config, long := ["config"], arity := .valued false }]

/-- The options that describe a route. -/
def routeOptions : List OptionRule := [
  { key := .method, short := some 'm', long := ["method"], arity := .valued true },
  { key := .function, short := some 'f', long := ["function"], arity := .valued true },
  { key := .path, short := some 'p', long := ["path"], arity := .valued true }]

/-- The option to overwrite existing files. -/
def forceOption : OptionRule :=
  { key := .force, long := ["force"], arity := .once }

/-- The grammar of the command line. -/
def grammar : CommandRule where
  name := "solidgo"
  options := globalOptions
  subcommands := [
    { name := "route"
      aliases := ["r"]
      options := globalOptions
      subcommands := [
        { name := "new"
          aliases := ["n"]
          operands := 1
          options := globalOptions ++ routeOptions ++
            [forceOption, { key := .noRegister, long := ["no-register"], arity := .once }] },
        { name := "add"
          aliases := ["a"]
          operands := 1
          options := globalOptions ++ routeOptions },
        { name := "register"
          operands := 1
          options := globalOptions }] },
    { name := "component"
      aliases := ["c"]
      operands := 2
      options := globalOptions ++
        [{ key := .noModule, long := ["no-module", "noModule"], arity := .once }, forceOption] }]

/-- The version of the program. -/
def version : String := "0.1.0"

/-- The forms of the command line, for the reader. -/
def usage : String := "\n".intercalate [
  "Usage: solidgo [-v]... [--config <FILE>] <COMMAND>",
  "",
  "Commands:",
  "  route new <RESOURCE> [-m <METHOD>] [-f <FUNCTION>] [-p <PATH>] [--force] [--no-register]",
  "  route add <RESOURCE> [-m <METHOD>] [-f <FUNCTION>] [-p <PATH>]",
  "  route register <RESOURCE>",
  "  component <PATH> <NAME> [--no-module] [--force]"]

/-- The request that the innermost level describes. -/
def request (level : Level) (resource : Text) : RouteRequest where
  resource
  method := level.given.lookup .method
  function := level.given.lookup .function
  path := level.given.lookup .path

/-- The command that the levels name. -/
def command? (levels : List Level) : Option Command := do
  let inner ← levels.getLast?
  match levels.map (·.name), inner.operands with
  | [_, "route", "new"], [resource] =>
    return .createRoute (request inner resource) (inner.has .force) (inner.has .noRegister)
  | [_, "route", "add"], [resource] => return .addRoute (request inner resource)
  | [_, "route", "register"], [resource] => return .registerRoute resource
  | [_, "component"], [path, name] =>
    return .createComponent path name (inner.has .noModule) (inner.has .force)
  | _, _ => none

/-- The invocation that the levels mean. A settings file that no level names may be named by the
environment. -/
def ofLevels? (levels : List Level) (environment : Option Text) : Option Invocation := do
  let command ← command? levels
  let named := levels.reverse.findSome? fun level => level.given.lookup .config
  let counts := levels.reverse.map fun level => level.count .verbose
  return {
    command
    settings := (named.or environment).map Path.mk
    verbosity := (counts.find? (0 < ·)).getD 0 }

/-- The invocation that the words make up, where the environment may name a settings file. -/
def read (words : List Text) (environment : Option Text) : Except Stop Invocation := do
  let valueOf : OptionKey → Option Text
    | .config => environment
    | _ => none
  match ofLevels? (← CommandLine.read valueOf grammar words) environment with
  | some invocation => return invocation
  | none => throw .usageError

end Invocation

end Scaffold
