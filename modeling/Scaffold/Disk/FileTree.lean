import Scaffold.Disk.Path
import Scaffold.Disk.Fault

/-!
A file tree without links, and what the system calls do to it. An entry is found by the list of
names from the root directory. A path is followed name by name, and each step can fail: the place
reached may be no directory, the name may be too long or missing. Operations that change the tree
give the changed tree or a fault, never both; only the creation of several directories can fail
after it made some of them.
-/

namespace Scaffold

/-- What a file holds: a text, or bytes that are no text. -/
inductive Content where
  | text (t : Text)
  | binary (bytes : List UInt8)
  deriving DecidableEq, Inhabited

/-- What stands at a place of the tree. -/
inductive Entry where
  | directory
  | file (content : Content)
  deriving DecidableEq, Inhabited

/-- The names from the root directory down to an entry. -/
abbrev Location := List Text

/-- The entries of a disk below the root directory. Of two entries at one location the first counts. -/
structure FileTree where
  entries : List (Location × Entry)
  deriving Inhabited

namespace FileTree

/-- The tree that has only the root directory. -/
def empty : FileTree := ⟨[]⟩

/-- The entry at a location. The root directory is always there. -/
def lookup (t : FileTree) (l : Location) : Option Entry :=
  if l = [] then some .directory else t.entries.lookup l

/-- The tree with the given entry at a location. -/
def put (t : FileTree) (l : Location) (e : Entry) : FileTree :=
  ⟨(l, e) :: t.entries⟩

@[simp] theorem lookup_root (t : FileTree) : t.lookup [] = some .directory := rfl

theorem lookup_put (t : FileTree) (l m : Location) (e : Entry) (hm : m ≠ []) :
    (t.put l e).lookup m = if m = l then some e else t.lookup m := by
  by_cases h : m = l
  · subst h
    simp [lookup, put, hm]
  · have hne : (m == l) = false := by simpa using h
    simp [lookup, put, hm, h, List.lookup_cons, hne]

/-- The longest name of an entry, in bytes. -/
def nameLimit : Nat := 255

/-- The longest path that the system takes, in bytes. -/
def pathLimit : Nat := 4095

/-- The place reached from `here` by one step. -/
def step (t : FileTree) (here : Location) (name : Text) : Except Fault Location :=
  if t.lookup here ≠ some .directory then .error .notDirectory
  else if name = Path.stay then .ok here
  else if name = Path.up then .ok here.dropLast
  else if nameLimit < Text.byteSize name then .error .nameTooLong
  else if t.lookup (here ++ [name]) = none then .error .notFound
  else .ok (here ++ [name])

/-- The place reached from the root directory by the steps one after the other. -/
def walk (t : FileTree) (steps : List Text) : Except Fault Location :=
  steps.foldlM t.step []

/-- The faults of a path that no tree can serve. -/
def admissible (p : Path) : Except Fault Unit :=
  if '\x00' ∈ p.text then .error .nulInName
  else if p.text = [] then .error .notFound
  else if pathLimit < Text.byteSize p.text then .error .nameTooLong
  else .ok ()

/-- Whether the path ends in a slash, so that it can only name a directory. -/
def wantsDirectory (p : Path) : Bool :=
  p.text.getLast? == some '/'

/-- The place that the path names. -/
def locate (t : FileTree) (p : Path) : Except Fault Location := do
  admissible p
  let l ← t.walk p.steps
  if wantsDirectory p ∧ t.lookup l ≠ some .directory then throw .notDirectory
  return l

/-- The entry that the path names. -/
def at? (t : FileTree) (p : Path) : Option Entry :=
  match t.locate p with
  | .ok l => t.lookup l
  | .error _ => none

/-- Whether the path names a file. -/
def isFile (t : FileTree) (p : Path) : Bool :=
  match t.at? p with
  | some (.file _) => true
  | _ => false

/-- Whether the path names a directory. -/
def isDirectory (t : FileTree) (p : Path) : Bool :=
  t.at? p == some .directory

/-- The directory that holds the last step of the path, and that step if it is a name. -/
def slot (t : FileTree) (p : Path) : Except Fault (Location × Option Text) := do
  admissible p
  match p.steps.reverse with
  | [] => return ([], none)
  | last :: above =>
    let here ← t.walk above.reverse
    if t.lookup here ≠ some .directory then throw .notDirectory
    return (here, if last = Path.stay ∨ last = Path.up then none else some last)

/-- The entry with the given name in a directory, if the name can be looked up. -/
def child (t : FileTree) (here : Location) (name : Text) : Except Fault (Option Entry) :=
  if nameLimit < Text.byteSize name then .error .nameTooLong
  else .ok (t.lookup (here ++ [name]))

/-- The text of the file that the path names. -/
def read (t : FileTree) (p : Path) : Except Fault Text := do
  match t.lookup (← t.locate p) with
  | some (.file (.text text)) => return text
  | some (.file (.binary _)) => throw .notText
  | some .directory => throw .isDirectory
  | none => throw .notFound

/-- The tree with a new directory at the path. -/
def makeDirectory (t : FileTree) (p : Path) : Except Fault FileTree := do
  match ← t.slot p with
  | (_, none) => throw .exists
  | (here, some name) =>
    match ← t.child here name with
    | some _ => throw .exists
    | none => return t.put (here ++ [name]) .directory

/-- Makes the first of the directories, and before it those of the others that it needs. The others
are its ancestors, nearest first. -/
def makeDirectories (t : FileTree) : List Path → FileTree × Except Fault Unit
  | [] => (t, .error (.other "failed to create whole tree"))
  | p :: above =>
    match t.makeDirectory p with
    | .ok made => (made, .ok ())
    | .error .notFound =>
      match makeDirectories t above with
      | (grown, .error fault) => (grown, .error fault)
      | (grown, .ok ()) =>
        match grown.makeDirectory p with
        | .ok made => (made, .ok ())
        | .error fault => (grown, if grown.isDirectory p then .ok () else .error fault)
    | .error fault => (t, if t.isDirectory p then .ok () else .error fault)

/-- The tree with the given text at the path, in a new file or in place of what the file held. -/
def write (t : FileTree) (p : Path) (text : Text) : Except Fault FileTree := do
  match ← t.slot p with
  | (_, none) => throw .isDirectory
  | (here, some name) =>
    if wantsDirectory p then throw .isDirectory
    match ← t.child here name with
    | some .directory => throw .isDirectory
    | _ => return t.put (here ++ [name]) (.file (.text text))

/-- The tree after a file with the given text, made elsewhere on the disk, was moved to the path. -/
def moveTo (t : FileTree) (p : Path) (text : Text) : Except Fault FileTree := do
  match ← t.slot p with
  | (_, none) => throw .busy
  | (here, some name) =>
    let old ← t.child here name
    if wantsDirectory p then throw .notDirectory
    if old = some .directory then throw .isDirectory
    return t.put (here ++ [name]) (.file (.text text))

end FileTree

end Scaffold
