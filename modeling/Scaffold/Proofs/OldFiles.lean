import Scaffold.Proofs.Component
import Scaffold.Proofs.Disk.Uncovering
import Scaffold.Proofs.Route.Commands
import Scaffold.Proofs.Route.Targets

/-! What the commands that create files leave of the files that were there. Without force they look
first and write then, so that an old file goes only where making the directories brings it into sight.
The registry file is the one that is meant to change. -/

namespace Scaffold

open FileTree

namespace Component

variable {project : Project} {path name : Text} {noStyle : Bool} {t new last : FileTree}
  {outcome : Except Failure Unit}

/-- The style file replaces nothing: its directory is there once the source file is written. -/
theorem keepsFiles_styleFile (hFirst : t.writeNew? (sourceFile project path name) (source name) = some new)
    (hSecond : new.writeNew? (styleFile project path name) style = some last) :
    KeepsFiles new last := by
  obtain ⟨-, grown, hGrown, hWrite⟩ := writeNew?_eq_some_iff.mp hFirst
  rw [sourceFile_eq_extend] at hGrown hWrite
  rw [keepsFiles_iff_of_writeNew? hSecond (KeepsFiles.refl last), styleFile_eq_extend]
  intro l
  exact not_uncovers_of_withParent
    (withParent_extend_of_write isExtension_source isExtension_style hGrown hWrite)

theorem Creates.keepsFiles_last_iff
    (h : Creates t (sourceFile project path name) (styleFile project path name) (source name) noStyle
      outcome last) :
    KeepsFiles t last ↔
      noStyle = false ∧ t.at? (styleFile project path name) ≠ none ∨
        ∀ l, ¬ Uncovers t (sourceFile project path name) (source name) l := by
  have hWritten {new : FileTree}
      (hFirst : t.writeNew? (sourceFile project path name) (source name) = some new)
      (hKeeps : KeepsFiles new last)
      (hStyle : noStyle = true ∨ t.at? (styleFile project path name) = none) :
      KeepsFiles t last ↔
        noStyle = false ∧ t.at? (styleFile project path name) ≠ none ∨
          ∀ l, ¬ Uncovers t (sourceFile project path name) (source name) l := by
    rw [keepsFiles_iff_of_writeNew? hFirst hKeeps]
    rcases hStyle with hStyle | hStyle <;> simp [hStyle]
  cases h with
  | refused present =>
      apply iff_of_true (KeepsFiles.refl t)
      rcases present with hSource | hStyle
      · exact Or.inr fun l hUncovers => hSource hUncovers.absent
      · exact Or.inl hStyle
  | stopped first grows =>
      apply iff_of_true grows.keepsFiles
      refine Or.inr fun l hUncovers => ?_
      obtain ⟨new, hNew, -⟩ := hUncovers.exists_writeNew?
      rw [first] at hNew
      cases hNew
  | alone noStyle_eq first => exact hWritten first (KeepsFiles.refl last) (Or.inl noStyle_eq)
  | @both new _ first second =>
      have hStyle : t.at? (styleFile project path name) = none := by
        by_contra hThere
        obtain ⟨-, grown, hGrown, hWrite⟩ := writeNew?_eq_some_iff.mp first
        apply at?_ne_none_of_kept (kept_of_write hWrite) _ (writeNew?_eq_some_iff.mp second).1
        exact at?_ne_none_of_kept (grows_of_withParent hGrown).kept hThere
      exact hWritten first (keepsFiles_styleFile first second) (Or.inr hStyle)
  | half noStyle_eq absent first second grows =>
      exact hWritten first grows.keepsFiles (Or.inr absent)

end Component

namespace Route

variable {project : Project} {request : RouteRequest} {noRegister : Bool} {t : FileTree} {l : Location}
  {names : RouteNames} {content : Content}

/-- The tree once the route file was to be written. -/
def withRouteFile (t : FileTree) (project : Project) (names : RouteNames) : FileTree :=
  ((Files.writeNew (project.routeFile names.resource) (NewFile.route names) false).onDisk t).2

/-- The tree once both new files were to be written, at the moment of the registration. -/
def withNewFiles (t : FileTree) (project : Project) (names : RouteNames) : FileTree :=
  ((Files.writeNew (project.controllerFile names.resource) (NewFile.controller names) false).onDisk
    (withRouteFile t project names)).2

/-- One of the new files comes to stand where an old file comes into sight. -/
def Uncovered (t : FileTree) (project : Project) (request : RouteRequest) (l : Location) : Prop :=
  ∃ names, namesIn t project request = some names ∧
    (Uncovers t (project.routeFile names.resource) (NewFile.route names) l ∨
      Uncovers (withRouteFile t project names) (project.controllerFile names.resource)
        (NewFile.controller names) l)

/-- The registry file stands at the location, and in the second tree it holds what the registration
makes of the text that it held at that moment. -/
def Registered (t last : FileTree) (project : Project) (request : RouteRequest) (l : Location) :
    Prop :=
  ∃ names new, namesIn t project request = some names ∧
    (withNewFiles t project names).Rewrites project.registryFile
      (fun text => Registry.register text names) l new ∧ last.lookup l = some (.file (.text new))

theorem lookup_withNewFiles_iff (hNames : namesIn t project request = some names)
    (hFile : t.lookup l = some (.file content)) :
    (withNewFiles t project names).lookup l = some (.file content) ↔
      ¬ Uncovered t project request l := by
  simp only [Uncovered, hNames, Option.some.injEq, exists_eq_left', not_or]
  -- No route file is a controller file, so at most one of the new files comes to this place.
  by_cases hl : l = (project.controllerFile names.resource).location
  · have hApart : l ≠ (project.routeFile names.resource).location := by
      rw [hl]
      exact (project.location_routeFile_ne _ _).symm
    have hFirst : (withRouteFile t project names).lookup l = some (.file content) :=
      (Files.lookup_onDisk_writeNew_of_ne hApart).mpr hFile
    rw [withNewFiles, Files.lookup_onDisk_writeNew_iff hFirst]
    exact (and_iff_right fun hUncovers => hApart hUncovers.eq_location).symm
  · rw [withNewFiles, Files.lookup_onDisk_writeNew_of_ne hl, withRouteFile,
      Files.lookup_onDisk_writeNew_iff hFile]
    exact (and_iff_left fun hUncovers => hl hUncovers.eq_location).symm

/-- After the new files come, only the registration changes a file. -/
theorem lookup_onDisk_create (hNames : namesIn t project request = some names) :
    let last := ((create project request false noRegister).onDisk t).2
    last.lookup l = (withNewFiles t project names).lookup l ∨
      noRegister = false ∧ Registered t last project request l := by
  rw [onDisk_create _ _ hNames]
  cases noRegister with
  | true => exact Or.inl rfl
  | false =>
      have hExtended := Files.extended_onDisk project.registryFile "route group registration"
        (fun _ => []) (fun text => Registry.register text names) (withNewFiles t project names)
      rcases hExtended.lookup_eq l with hSame | ⟨new, hNew, hHeld⟩
      · exact Or.inl hSame
      · exact Or.inr ⟨rfl, names, new, hNames, hNew, hHeld⟩

/-- An old file stays as it is or is registered in, unless it is uncovered. -/
theorem lookup_onDisk_create_iff (hFile : t.lookup l = some (.file content)) :
    let last := ((create project request false noRegister).onDisk t).2
    (last.lookup l = some (.file content) ∨
        noRegister = false ∧ Registered t last project request l) ↔
      (Uncovered t project request l →
        noRegister = false ∧ Registered t last project request l) := by
  intro last
  cases hNames : namesIn t project request with
  | none =>
      obtain ⟨failure, hRun⟩ : ∃ failure,
          (create project request false noRegister).onDisk t = (.error failure, t) :=
        onDisk_namesFor_bind_of_none hNames _
      have hSame : last = t := congrArg Prod.snd hRun
      apply iff_of_true
      · exact Or.inl (hSame ▸ hFile)
      · rintro ⟨names, hSome, -⟩
        rw [hNames] at hSome
        cases hSome
  | some names =>
      have hMoment := lookup_withNewFiles_iff hNames hFile
      have hLast : last.lookup l = (withNewFiles t project names).lookup l ∨
          noRegister = false ∧ Registered t last project request l := lookup_onDisk_create hNames
      constructor
      · rintro (hHeld | hRegistered) hUncovered
        · rcases hLast with hSame | hRegistered
          · exact absurd hUncovered (hMoment.mp (hSame ▸ hHeld))
          · exact hRegistered
        · exact hRegistered
      · intro hOnly
        by_cases hUncovered : Uncovered t project request l
        · exact Or.inr (hOnly hUncovered)
        · exact hLast.imp_left fun hSame => hSame.trans (hMoment.mpr hUncovered)

theorem Uncovered.exists_file (h : Uncovered t project request l) :
    ∃ content, t.lookup l = some (.file content) := by
  obtain ⟨names, -, hRoute | hController⟩ := h
  · obtain ⟨content, hFile, -⟩ := hRoute.exists_file
    exact ⟨content, hFile⟩
  · obtain ⟨content, hFile, -⟩ := hController.exists_file
    have hApart : l ≠ (project.routeFile names.resource).location := by
      rw [hController.eq_location]
      exact (project.location_routeFile_ne _ _).symm
    exact ⟨content, (Files.lookup_onDisk_writeNew_of_ne hApart).mp hFile⟩

/-- Without steps upwards in their paths the new files replace no file that stands in directories. -/
theorem not_uncovered_of_down
    (hDown : ∀ names, namesIn t project request = some names →
      Path.up ∉ (project.routeFile names.resource).steps ∧
        Path.up ∉ (project.controllerFile names.resource).steps)
    (hRooted : Rooted t l) : ¬ Uncovered t project request l := by
  rintro ⟨names, hNames, hRoute | hController⟩
  · exact not_uncovers_of_down (hDown names hNames).1 hRooted hRoute
  · have hKept := Files.kept_onDisk_writeNew (project.routeFile names.resource) (NewFile.route names) t
    exact not_uncovers_of_down (hDown names hNames).2 (hRooted.kept hKept) hController

end Route

/-- Without force, the command for components keeps every file exactly if it uncovers none, and the
command for new routes keeps every file but the registry exactly if the files that it uncovers are
registries, in which it registers the route afterwards. -/
theorem keepsFiles_iff (project : Project) (w : World) :
    (∀ path name noStyle,
      KeepsFiles w.disk ((Component.create project path name noStyle false).run.run w).2.disk ↔
        noStyle = false ∧ w.disk.at? (Component.styleFile project path name) ≠ none ∨
          ∀ l, ¬ Uncovers w.disk (Component.sourceFile project path name) (Component.source name) l) ∧
    ∀ request noRegister,
      let last := ((Route.create project request false noRegister).run.run w).2.disk
      (∀ l content, w.disk.lookup l = some (.file content) →
        last.lookup l = some (.file content) ∨
          noRegister = false ∧ Route.Registered w.disk last project request l) ↔
      ∀ l, Route.Uncovered w.disk project request l →
        noRegister = false ∧ Route.Registered w.disk last project request l := by
  constructor
  · intro path name noStyle
    rw [(Job.run_eq_onDisk _ w).2]
    exact (Component.creates_onDisk project path name noStyle w.disk).keepsFiles_last_iff
  · intro request noRegister
    rw [(Job.run_eq_onDisk _ w).2]
    constructor
    · intro hKeeps l hUncovered
      obtain ⟨content, hFile⟩ := hUncovered.exists_file
      exact (Route.lookup_onDisk_create_iff hFile).mp (hKeeps l content hFile) hUncovered
    · intro hOnly l content hFile
      exact (Route.lookup_onDisk_create_iff hFile).mpr (hOnly l)

/-- A path through a missing directory and up again. Home names nothing until the directory is made,
and then its file is replaced. -/
theorem not_keepsFiles_create :
    let project : Project := { root := Path.ofString "/p", layout := Layout.standard }
    let place : Location :=
      ["p".toList, "client".toList, "src".toList, "Home".toList, "Home.tsx".toList]
    let before : World :=
      { disk := ⟨[(place, .file (.text "// hand written\n".toList)), (place.take 4, .directory),
          (place.take 3, .directory), (place.take 2, .directory), (place.take 1, .directory)]⟩
        messages := [] }
    let after := (Component.create project "missing/..".toList "Home".toList true false).run.run before
    ¬ KeepsFiles before.disk after.2.disk := by
  intro project place before after hKeeps
  have hOld : before.disk.lookup place = some (.file (.text "// hand written\n".toList)) := by
    decide +kernel
  have hNew : after.2.disk.lookup place = some (.file (.text (Component.source "Home".toList))) := by
    decide +kernel
  have hSame := (hKeeps place _ hOld).symm.trans hNew
  revert hSame
  decide +kernel

/-- On a disk where every file stands in directories, and without steps upwards, every file stays. -/
theorem keepsFiles_of_down (project : Project) (w : World)
    (hRooted : ∀ l content, w.disk.lookup l = some (.file content) → Rooted w.disk l) :
    (∀ path name noStyle, Path.up ∉ (Component.sourceFile project path name).steps →
      KeepsFiles w.disk ((Component.create project path name noStyle false).run.run w).2.disk) ∧
    ∀ request, (∀ names, Route.namesIn w.disk project request = some names →
        Path.up ∉ (project.routeFile names.resource).steps ∧
          Path.up ∉ (project.controllerFile names.resource).steps) →
      KeepsFiles w.disk ((Route.create project request false true).run.run w).2.disk := by
  constructor
  · intro path name noStyle hDown
    rw [(Job.run_eq_onDisk _ w).2, (Component.creates_onDisk ..).keepsFiles_last_iff]
    refine Or.inr fun l hUncovers => ?_
    obtain ⟨content, hFile, -⟩ := hUncovers.exists_file
    exact not_uncovers_of_down hDown (hRooted l content hFile) hUncovers
  · intro request hDown l content hFile
    rw [(Job.run_eq_onDisk _ w).2]
    have hNone := Route.not_uncovered_of_down hDown (hRooted l content hFile)
    refine ((Route.lookup_onDisk_create_iff hFile).mpr fun hUncovered => ?_).resolve_right nofun
    exact absurd hUncovered hNone

end Scaffold
