import Scaffold.Proofs.Disk.Reading
import Scaffold.Proofs.Settings.Looking

/-! The project that is loaded, as a function of the tree: the settings of the user, those of the
project, and the layout that both of them make up, unless one of these is missing or cannot be used. -/

namespace Scaffold

namespace FileTree

/-- The layer that the settings file at the path gives. -/
def layerAt? (t : FileTree) (p : Path) : Option Layer :=
  (t.textAt? p).bind fun text => (Toml.Document.read? text).bind Layer.ofDocument?

/-- The layer of the user. Without a settings file it says nothing. -/
def userLayer? (t : FileTree) (p : Path) : Option Layer :=
  if t.at? p = none then some Layer.empty else t.layerAt? p

/-- The settings file in the first of the directories that has one, up to a repository. -/
def settingsIn (t : FileTree) : List Path → Option Path
  | [] => none
  | directory :: above =>
    if t.isFile (directory.join Settings.fileName) then some (directory.join Settings.fileName)
    else if t.isDirectory (directory.join Settings.repositoryName) then none
    else settingsIn t above

/-- The settings file of the project, if there is to be one. A file that is named has to be there. -/
def chosen? (t : FileTree) (start : Path) : Option Path → Option (Option Path)
  | some named =>
    if t.isFile (start.join named.text) then some (some (start.join named.text)) else none
  | none => some (t.settingsIn start.ancestors)

/-- The layer of the project itself. -/
def ownLayer? (t : FileTree) : Option Path → Option Layer
  | some p => t.layerAt? p
  | none => some Layer.empty

/-- The project with the layers of the user and of its own settings file, unless a place is blank. -/
def projectOf? (start : Path) (chosen : Option Path) (user own : Layer) : Option Project :=
  let layout := (own.orElse user).toLayout
  if layout.blankKey? = none then
    some { root := (chosen.map fun p => p.parent?.getD start).getD start, layout }
  else none

/-- The project around the start directory. -/
def project? (t : FileTree) (userSettings start : Path) (named : Option Path) : Option Project := do
  let user ← t.userLayer? userSettings
  let chosen ← t.chosen? start named
  let own ← t.ownLayer? chosen
  projectOf? start chosen user own

end FileTree

open FileTree

namespace Settings

theorem onDisk_readLayer (p : Path) (t : FileTree) :
    ((readLayer p).onDisk t).1.toOption = t.layerAt? p := by
  rw [readLayer, Job.onDisk_bind, Job.onDisk_require, Request.answer, layerAt?]
  cases hRead : t.read p with
  | error fault =>
      rw [textAt?_eq_none_of_read hRead]
      rfl
  | ok text =>
      rw [read_eq_ok_iff.mp hRead]
      simp only [Except.mapError, Option.bind_some]
      cases (Toml.Document.read? text).bind Layer.ofDocument? <;> rfl

theorem onDisk_userLayer (p : Path) (t : FileTree) :
    ((userLayer p).onDisk t).1.toOption = t.userLayer? p := by
  rw [userLayer, Job.onDisk_bind, Job.onDisk_lift, Files.onDisk_present, FileTree.userLayer?]
  by_cases hNone : t.at? p = none
  · rw [if_pos hNone, kind?_eq_none_iff.mpr hNone]
    rfl
  · rw [if_neg hNone]
    cases hKind : t.kind? p with
    | none => exact absurd (kind?_eq_none_iff.mp hKind) hNone
    | some kind => exact onDisk_readLayer p t

theorem onDisk_search (directories : List Path) (t : FileTree) :
    ((search directories).onDisk t).1 = t.settingsIn directories := by
  induction directories with
  | nil => rfl
  | cons directory above ih =>
      rw [search, Plan.onDisk_bind, Files.onDisk_isFile, settingsIn]
      cases t.isFile (directory.join fileName) with
      | true => rfl
      | false =>
          simp only [Bool.false_eq_true, if_false, Plan.onDisk_bind, Files.onDisk_kind,
            kind?_eq_directory_iff]
          cases t.isDirectory (directory.join repositoryName) with
          | true => rfl
          | false => exact ih

theorem onDisk_choose (start : Path) (named : Option Path) (t : FileTree) :
    ((choose start named).onDisk t).1.toOption = t.chosen? start named := by
  cases named with
  | none =>
      rw [choose, Job.onDisk_lift, onDisk_search]
      rfl
  | some named =>
      rw [choose, chosen?, Job.onDisk_bind, Job.onDisk_lift, Files.onDisk_isFile]
      cases t.isFile (start.join named.text) <;> rfl

end Settings

namespace Project

theorem onDisk_resolve (start : Path) (named : Option Path) (user : Layer) (t : FileTree) :
    ((resolve start named user).onDisk t).1.toOption =
      (t.chosen? start named).bind fun chosen =>
        (t.ownLayer? chosen).bind fun own => projectOf? start chosen user own := by
  rw [resolve, Job.toOption_onDisk_bind (Settings.keeps_choose start named),
    Settings.onDisk_choose]
  congr 1
  funext chosen
  cases chosen with
  | none =>
      simp only [Job.onDisk_bind, Job.onDisk_pure, ownLayer?, Option.bind_some, projectOf?]
      cases (Layer.orElse Layer.empty user).toLayout.blankKey? <;> rfl
  | some p =>
      rw [ownLayer?, ← Settings.onDisk_readLayer]
      simp only [Job.onDisk_bind, Job.onDisk_lift, Plan.onDisk_log]
      rw [Job.onDisk_of_untouched (Settings.keeps_readLayer p)]
      cases ((Settings.readLayer p).onDisk t).1 with
      | error failure => rfl
      | ok own =>
          change _ = projectOf? start (some p) user own
          simp only [Job.onDisk_pure, projectOf?]
          cases (own.orElse user).toLayout.blankKey? <;> rfl

theorem onDisk_load (userSettings start : Path) (named : Option Path) (t : FileTree) :
    ((load userSettings start named).onDisk t).1.toOption = t.project? userSettings start named := by
  rw [load, Job.toOption_onDisk_bind (Settings.keeps_userLayer Plan.untouched_log _),
    Settings.onDisk_userLayer]
  simp only [onDisk_resolve]
  rfl

end Project

theorem Layout.blankKey?_eq_none_iff {layout : Layout} :
    layout.blankKey? = none ↔ ∀ key, (layout key).trim ≠ [] := by
  rw [blankKey?, List.find?_eq_none]
  constructor
  · intro h key
    simpa using h key (LayoutKey.mem_all key)
  · intro h key _
    simpa using h key

/-- Why the tree has no project. -/
inductive FileTree.Unloadable (t : FileTree) (userSettings start : Path) (named : Option Path) : Prop
    where
  /-- The settings file that is named is no file. -/
  | missing {p : Path} (named_eq : named = some p) (noFile : t.isFile (start.join p.text) = false) :
      Unloadable t userSettings start named
  /-- The user has settings, but they cannot be read or are rejected. -/
  | user (there : t.at? userSettings ≠ none) (unusable : t.layerAt? userSettings = none) :
      Unloadable t userSettings start named
  /-- The settings of the project cannot be read or are rejected. -/
  | own {p : Path} (chosen : t.chosen? start named = some (some p)) (unusable : t.layerAt? p = none) :
      Unloadable t userSettings start named
  /-- The settings leave a place of the layout blank. -/
  | blank {user own : Layer} {chosen : Option Path} {key : LayoutKey}
      (user_eq : t.userLayer? userSettings = some user)
      (chosen_eq : t.chosen? start named = some chosen) (own_eq : t.ownLayer? chosen = some own)
      (blank : ((own.orElse user).toLayout key).trim = []) : Unloadable t userSettings start named

theorem FileTree.project?_eq_none_iff {t : FileTree} {userSettings start : Path}
    {named : Option Path} :
    t.project? userSettings start named = none ↔ t.Unloadable userSettings start named := by
  constructor
  · intro hNone
    cases hUser : t.userLayer? userSettings with
    | none =>
        rw [userLayer?] at hUser
        split_ifs at hUser with hAbsent
        exact .user hAbsent hUser
    | some user =>
        cases hChosen : t.chosen? start named with
        | none =>
            cases named with
            | none => cases hChosen
            | some p =>
                rw [chosen?] at hChosen
                split_ifs at hChosen with hFile
                exact .missing rfl (Bool.eq_false_iff.mpr hFile)
        | some chosen =>
            cases hOwn : t.ownLayer? chosen with
            | none =>
                cases chosen with
                | none => cases hOwn
                | some p => exact .own hChosen hOwn
            | some own =>
                simp only [project?, hUser, hChosen, hOwn, Option.bind_eq_bind, Option.bind_some,
                  projectOf?] at hNone
                split_ifs at hNone with hPlaces
                rw [Layout.blankKey?_eq_none_iff, not_forall] at hPlaces
                obtain ⟨key, hKey⟩ := hPlaces
                exact .blank hUser hChosen hOwn (not_not.mp hKey)
  · intro hUnloadable
    rw [project?]
    cases hUnloadable with
    | missing named_eq noFile => simp [named_eq, chosen?, noFile]
    | user there unusable => simp [userLayer?, there, unusable]
    | own chosen unusable => simp [chosen, ownLayer?, unusable]
    | @blank user own chosen key user_eq chosen_eq own_eq blank =>
        have hPlaces : (own.orElse user).toLayout.blankKey? ≠ none :=
          fun hNone => Layout.blankKey?_eq_none_iff.mp hNone key blank
        simp [user_eq, chosen_eq, own_eq, projectOf?, hPlaces]

/-- Loading fails for these reasons alone. -/
theorem Project.exists_load_error_iff {w : World} {userSettings start : Path} {named : Option Path} :
    (∃ failure, ((load userSettings start named).run.run w).1 = .error failure) ↔
      w.disk.Unloadable userSettings start named := by
  rw [(Job.run_eq_onDisk _ w).1, ← FileTree.project?_eq_none_iff, ← onDisk_load]
  cases ((load userSettings start named).onDisk w.disk).1 <;> simp [Except.toOption]

end Scaffold
