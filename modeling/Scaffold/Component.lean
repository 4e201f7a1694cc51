import Scaffold.Settings.Project
import Scaffold.Template

/-!
The command that creates a component: a source file and, unless it is told not to, a style file in a
directory of their own. Both paths are looked at before either file is written, so that a component
of which one file exists is left alone.
-/

namespace Scaffold.Component

/-- The template of a component's source file. -/
def sourceTemplate : Template Unit := [
  .literal "import styles from \"./".toList, .gap (),
  .literal ".module.scss\";\n\nimport \x7b Component \x7d from \"solid-js\";\n\ninterface ".toList,
  .gap (), .literal "Props \x7b\x7d\n\nexport const ".toList,
  .gap (), .literal ": Component<".toList, .gap (),
  .literal "Props> = (props) => \x7b\n  return <div class=\x7bstyles.root\x7d>".toList,
  .gap (), .literal " Works!</div>;\n\x7d;\n".toList]

/-- The source file of the component with the given name. -/
def source (name : Text) : Text :=
  sourceTemplate.fill fun _ => name

/-- The style file of every component. -/
def style : Text :=
  ".root \x7b\x7d".toList

/-- The directory of a component. -/
def directory (project : Project) (path name : Text) : Path :=
  (project.componentsDir.join (path.stripChar '/')).join name

/-- The first of the paths that names something. -/
def firstPresent : List Path → Plan (Option Path)
  | [] => return none
  | p :: rest => do
    if ← Files.present p then
      return some p
    else
      firstPresent rest

/-- Creates a component. -/
def create (project : Project) (path name : Text) (noStyle force : Bool) : Job Unit := do
  let home := directory project path name
  let creation := s!"Failed to create component '{name.str}'"
  Plan.log .component .info s!"Creating component '{name.str}' in {home}"
  let sourceFile := home.join (name ++ ".tsx".toList)
  let styleFile := home.join (name ++ ".module.scss".toList)
  unless force do
    if let some p ← firstPresent (if noStyle then [sourceFile] else [sourceFile, styleFile]) then
      Job.within creation (Job.fail (.fileExists p))
  Job.within creation (Files.writeNew sourceFile (source name) force)
  Plan.say s!"Created {sourceFile}"
  unless noStyle do
    Job.within s!"Failed to create style module for '{name.str}'"
      (Files.writeNew styleFile style force)
    Plan.say s!"Created {styleFile}"
  Plan.say "Component created successfully"

end Scaffold.Component
