import Scaffold.Text.Blank
import Scaffold.Toml.Document

/-!
Where the files of a project stand. A layout gives each of five keys a place, and a layer gives
places to some of the keys. Layers are laid one over the other key by key, so what a layer says of
one key has no bearing on the others.
-/

namespace Scaffold

/-- What a layout gives a place to. -/
inductive LayoutKey where
  /-- The directory of the route files. -/
  | routesDir
  /-- The directory of the controller files. -/
  | controllersDir
  /-- The file that registers the route groups. -/
  | registryFile
  /-- The module file of the server. -/
  | moduleFile
  /-- The directory of the components. -/
  | componentsDir
  deriving DecidableEq

namespace LayoutKey

/-- All keys, in the order in which they are checked. -/
def all : List LayoutKey :=
  [routesDir, controllersDir, registryFile, moduleFile, componentsDir]

/-- The name of the key in a settings file. -/
def name : LayoutKey → String
  | routesDir => "routes_dir"
  | controllersDir => "controllers_dir"
  | registryFile => "registry_file"
  | moduleFile => "module_file"
  | componentsDir => "components_dir"

/-- The key with the given name. -/
def ofName? (t : Text) : Option LayoutKey :=
  all.find? fun k => k.name.toList = t

theorem mem_all (k : LayoutKey) : k ∈ all := by
  cases k <;> decide

end LayoutKey

/-- The place of every key, relative to the root of the project. -/
abbrev Layout := LayoutKey → Text

/-- The places that one settings file gives. -/
abbrev Layer := LayoutKey → Option Text

namespace Layout

/-- The places where no settings file says otherwise. -/
def standard : Layout
  | .routesDir => "server/routes".toList
  | .controllersDir => "server/controllers".toList
  | .registryFile => "server/routes/routes.go".toList
  | .moduleFile => "server/go.mod".toList
  | .componentsDir => "client/src".toList

/-- The first key without a place: one whose text is blank. -/
def blankKey? (layout : Layout) : Option LayoutKey :=
  LayoutKey.all.find? fun k => (layout k).trim = []

end Layout

namespace Layer

/-- The layer that says nothing. -/
def empty : Layer := fun _ => none

/-- The upper layer where it gives a place, else the lower one. -/
def orElse (upper lower : Layer) : Layer :=
  fun k => (upper k).or (lower k)

/-- The layout of the layer over the standard places. -/
def toLayout (layer : Layer) : Layout :=
  fun k => (layer k).getD (Layout.standard k)

/-- How far the layout was given by the statements before. -/
inductive Progress where
  | absent
  /-- Some keys were given by their full names. -/
  | keyed
  /-- The layout is complete, or its header was there. -/
  | closed
  deriving DecidableEq

/-- What the statements up to a point say. -/
structure Draft where
  progress : Progress := .absent
  /-- The statements stand below the header of the layout. -/
  inLayout : Bool := false
  places : List (LayoutKey × Text) := []

namespace Draft

/-- The draft with one more place, if the name is that of a key without one. -/
def define (draft : Draft) (name : Text) (value : Toml.Value) : Option Draft := do
  let .text place := value | none
  let key ← LayoutKey.ofName? name
  guard (draft.places.lookup key).isNone
  return { draft with places := (key, place) :: draft.places }

/-- The draft with the places of a table. -/
def defineAll (draft : Draft) : List (Toml.Key × Toml.Value) → Option Draft
  | [] => some draft
  | ([name], value) :: rest => do (← draft.define name value).defineAll rest
  | _ :: _ => none

/-- The draft with the places of an array, in the order of the keys. Further items are ignored. -/
def defineInOrder (draft : Draft) : List LayoutKey → List Toml.Value → Option Draft
  | [], _ => some draft
  | key :: keys, .text place :: rest =>
    { draft with places := (key, place) :: draft.places }.defineInOrder keys rest
  | _ :: _, _ => none

/-- The name of the table of a settings file. -/
def tableName : Text := "layout".toList

/-- The draft after one more statement, if the statement has a place in a settings file. -/
def add (draft : Draft) : Toml.Item → Option Draft
  | .header [table] => do
    guard (table = tableName ∧ draft.progress = .absent)
    return { draft with progress := .closed, inLayout := true }
  | .entry [name] value => do
    if draft.inLayout then
      draft.define name value
    else
      guard (name = tableName ∧ draft.progress = .absent)
      let whole := { draft with progress := .closed }
      match value with
      | .table entries => whole.defineAll entries
      | .array items => whole.defineInOrder LayoutKey.all items
      | _ => none
  | .entry [table, name] value => do
    guard (table = tableName ∧ !draft.inLayout ∧ draft.progress ≠ .closed)
    { draft with progress := .keyed }.define name value
  | _ => none

end Draft

/-- The layer that a settings file gives, if it is one. -/
def ofDocument? (document : Toml.Document) : Option Layer :=
  (document.foldlM Draft.add {}).map fun draft key => draft.places.lookup key

end Layer

end Scaffold
