import Scaffold.Files
import Scaffold.Settings.Layout
import Scaffold.Text.Case
import Scaffold.Text.Lines
import Scaffold.Toml.Grammar

/-!
A project is a root directory and a layout. The settings come in three layers: those of the project
over those of the user over the standard places. The settings file of a project also fixes the
root: it is the nearest one in the working directory or above it, where the search goes no
further up than the first directory that holds a repository.
-/

namespace Scaffold

/-- The settings under which a command works. -/
structure Project where
  root : Path
  layout : Layout

namespace Project

/-- The place of the key below the root. -/
def place (project : Project) (key : LayoutKey) : Path :=
  project.root.join (project.layout key)

/-- The route file of a resource. -/
def routeFile (project : Project) (resource : Text) : Path :=
  (project.place .routesDir).join (resource.lower ++ ".routes.go".toList)

/-- The controller file of a resource. -/
def controllerFile (project : Project) (resource : Text) : Path :=
  (project.place .controllersDir).join (resource.lower ++ ".controller.go".toList)

/-- The file that registers the route groups. -/
def registryFile (project : Project) : Path :=
  project.place .registryFile

/-- The module file of the server. -/
def moduleFile (project : Project) : Path :=
  project.place .moduleFile

/-- The directory of the components. -/
def componentsDir (project : Project) : Path :=
  project.place .componentsDir

end Project

namespace Settings

/-- The name of a settings file in the root of a project. -/
def fileName : Text := ".solidgo.toml".toList

/-- The name of the directory that marks a repository. -/
def repositoryName : Text := ".git".toList

/-- The layer that the settings file gives. -/
def readLayer (p : Path) : Job Layer := do
  let text ← Job.require (Files.failure s!"Failed to read configuration file: {p}") (.read p)
  match (Toml.Document.read? text).bind Layer.ofDocument? with
  | some layer => return layer
  | none =>
    Job.fail (.configuration s!"Failed to parse TOML from file {p}: TOML parse error")

/-- The settings file in the first of the directories that has one, unless a directory before it
holds a repository. -/
def search : List Path → Plan (Option Path)
  | [] => return none
  | directory :: above => do
    let candidate := directory.join fileName
    if ← Files.isFile candidate then
      return some candidate
    else if (← Files.kind (directory.join repositoryName)) = some .directory then
      return none
    else
      search above

/-- The layer of the user, who may have no settings file. -/
def userLayer (p : Path) : Job Layer := do
  if ← Files.present p then
    Plan.log .settings .info s!"Loading user configuration from: {p}"
    readLayer p
  else
    return Layer.empty

/-- The settings file of the project: the one that the user names, or the one that is found. -/
def choose (start : Path) : Option Path → Job (Option Path)
  | some named => do
    let p := start.join named.text
    unless ← Files.isFile p do
      Job.fail (.configuration s!"Config file '{p}' does not exist.")
    return some p
  | none => search start.ancestors

end Settings

namespace Project

/-- The project around the start directory, with the layer of the user below its own. -/
def resolve (start : Path) (named : Option Path) (user : Layer) : Job Project := do
  let (root, own) ←
    match ← Settings.choose start named with
    | some p =>
      Plan.log .settings .info s!"Loading project configuration from: {p}"
      let own ← Settings.readLayer p
      pure (p.parent?.getD start, own)
    | none => pure (start, Layer.empty)
  let layout := (own.orElse user).toLayout
  if let some key := layout.blankKey? then
    Job.within "Configuration validation failed" <|
      Job.fail (.configuration s!"layout.{key.name} cannot be empty.")
  return { root, layout }

/-- The project around the start directory, where the user's settings file is at the given path. -/
def load (userSettings start : Path) (named : Option Path) : Job Project := do
  let user ← Settings.userLayer userSettings
  resolve start named user

/-- The module that a line of a module file names, if it is the line that does. -/
def moduleOfLine? (line : Line) : Option Text :=
  match line.words with
  | directive :: name :: _ =>
    if directive = "module".toList then some (name.stripChar '"') else none
  | _ => none

/-- The path of the module, which the first line with the module directive gives. -/
def moduleRoot (p : Path) : Job Text := do
  unless ← Files.isFile p do
    Job.fail (.configuration
      s!"Module file '{p}' not found. Run solidgo from the project root or set layout.module_file.")
  let text ←
    try Files.readText p
    catch f => Job.fail (.configuration s!"Could not read module file '{p}': {f.summary}")
  match text.lines.findSome? moduleOfLine? with
  | some name => return name
  | none => Job.fail (.configuration s!"module directive not found in '{p}'")

end Project

end Scaffold
