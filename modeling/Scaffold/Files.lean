import Scaffold.Plan

/-!
The file operations of the commands, each a job that names the file in its failure. None of them
writes before it has looked: an existing file is replaced only where the caller says so, and a
replacement happens at once or not at all.
-/

namespace Scaffold.Files

/-- The kind of what the path names. -/
def kind (p : Path) : Plan (Option Kind) :=
  Plan.request (.kind p)

/-- Whether the path names anything. -/
def present (p : Path) : Plan Bool := do
  return (← kind p).isSome

/-- Whether the path names a file. -/
def isFile (p : Path) : Plan Bool := do
  return (← kind p) = some .file

/-- The failure of an operation on one file. -/
def failure (context : String) (fault : Fault) : Failure :=
  ⟨[context], .file fault⟩

/-- Makes the directory, with those that it needs, unless it is there. -/
def ensureDirectory (p : Path) : Job Unit := do
  match ← kind p with
  | none =>
    Job.require (failure s!"Failed to create directory {p.quoted}") (.makeDirectories p)
    Plan.log .files .info s!"Created directory: {p.quoted}"
  | some .file =>
    Job.fail (.configuration s!"Path exists but is not a directory: {p.quoted}")
  | some .directory => return

/-- The text of the file. -/
def readText (p : Path) : Job Text :=
  Job.require (failure s!"Failed to read file {p.quoted}") (.read p)

/-- Writes the text to a new file, with the directories that it needs. Something that is already at
the path is overwritten only if `overwrite` says so. -/
def writeNew (p : Path) (text : Text) (overwrite : Bool) : Job Unit := do
  if (← present p) && !overwrite then
    Job.fail (.fileExists p)
  if let some above := p.parent? then
    ensureDirectory above
  Job.require (failure s!"Failed to write to file {p.quoted}") (.write p text)
  Plan.log .files .info s!"Wrote new file: {p.quoted}"

/-- The failure to replace the file at the path. -/
def replaceFailure (p : Path) : ReplaceFault → Failure
  | .staging fault temporary =>
    ⟨[s!"Failed to create temporary file in {(FileTree.stagingDirectory p).quoted}"],
      .temporary fault temporary⟩
  | .moving fault => failure s!"Failed to replace file {p.quoted}" fault

/-- Replaces the content of the file at once. -/
def replaceText (p : Path) (text : Text) : Job Unit :=
  Job.require (replaceFailure p) (.replace p text)

end Scaffold.Files
