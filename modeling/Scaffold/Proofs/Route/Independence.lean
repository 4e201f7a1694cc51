import Scaffold.Proofs.Route.Commands
import Scaffold.Proofs.Route.Targets

namespace Scaffold

namespace FileTree

/-- The second tree is the first one with both additions made, each where it is possible. -/
structure BothAdded (t t' : FileTree) (p q : Path) (first second : Text → Except Cause Addition) :
    Prop where
  atFirst : ∀ l new, t.Rewrites p first l new → t'.lookup l = some (.file (.text new))
  atSecond : ∀ l new, t.Rewrites q second l new → t'.lookup l = some (.file (.text new))
  elsewhere : ∀ l, (∀ new, ¬ t.Rewrites p first l new) → (∀ new, ¬ t.Rewrites q second l new) →
    t'.lookup l = t.lookup l

/-- How many of two additions cannot be made in the tree. -/
def failures (t : FileTree) (p q : Path) (first second : Text → Except Cause Addition) : Nat :=
  [(t.additionAt? p first).isNone, (t.additionAt? q second).isNone].countP id

end FileTree

namespace Files

open FileTree

variable {t middle last : FileTree} {p q : Path} {what other : String}
  {first second : Text → Except Cause Addition} {outcome outcome' : Except Failure Addition}

theorem Extended.rewrites_iff (h : Extended t p what first outcome middle)
    (hApart : p.location ≠ q.location) {l : Location} {new : Text} :
    middle.Rewrites q second l new ↔ t.Rewrites q second l new := by
  rw [Rewrites, Rewrites, h.sameShape.locate_eq, h.additionAt?_eq hApart]

/-- Additions to two files, one after the other. -/
theorem Extended.bothAdded (h : Extended t p what first outcome middle)
    (h' : Extended middle q other second outcome' last) (hApart : p.location ≠ q.location)
    (hp : Text.byteSize temporaryName ≤ Text.byteSize p.fileName)
    (hq : Text.byteSize temporaryName ≤ Text.byteSize q.fileName) :
    BothAdded t last p q first second where
  atFirst l new hNew := by
    have hMiddle := h.lookup_of_rewrites hp hNew
    rcases h'.lookup_eq l with hSame | ⟨new', hNew', -⟩
    · rw [hSame, hMiddle]
    -- The second addition cannot come to this place, to which the other path leads.
    · apply absurd _ hApart
      rw [← eq_location_of_locate hNew.1, ← eq_location_of_locate hNew'.1]
  atSecond l new hNew := h'.lookup_of_rewrites hq ((h.rewrites_iff hApart).mpr hNew)
  elsewhere l hFirst hSecond := by
    rcases h'.lookup_eq l with hSame | ⟨new, hNew, -⟩
    · rcases h.lookup_eq l with hSame' | ⟨new, hNew, -⟩
      · rw [hSame, hSame']
      · exact absurd hNew (hFirst new)
    · exact absurd ((h.rewrites_iff hApart).mp hNew) (hSecond new)

/-- A command that makes two additions fails if one of them did, and says how many did. -/
theorem Extended.outcome_both (h : Extended t p what first outcome middle)
    (h' : Extended middle q other second outcome' last) (hApart : p.location ≠ q.location)
    (hp : Text.byteSize temporaryName ≤ Text.byteSize p.fileName)
    (hq : Text.byteSize temporaryName ≤ Text.byteSize q.fileName) :
    ((({} : Tally).after outcome).after outcome').outcome =
      if 0 < t.failures p q first second then
        .error (Failure.ofCause (.operationsFailed (t.failures p q first second) 2))
      else .ok () := by
  rw [failures, ← h.toOption_eq hp, ← h.additionAt?_eq hApart, ← h'.toOption_eq hq]
  cases outcome <;> cases outcome' <;> rfl

end Files

namespace Route

open FileTree Files

variable {t : FileTree} {project : Project} {request : RouteRequest} {names : RouteNames}

theorem onDisk_add (hNames : namesIn t project request = some names) :
    let first := (RouteFile.addBindingAt (project.routeFile names.resource) names).onDisk t
    let second :=
      (ControllerFile.addStubAt (project.controllerFile names.resource) names).onDisk first.2
    (add project request).onDisk t =
      ((({} : Tally).after first.1).after second.1 |>.outcome, second.2) := by
  intro first second
  rw [add, onDisk_namesFor_bind hNames]
  simp only [Job.onDisk_bind, Job.onDisk_lift, Plan.onDisk_log, Tally.onDisk_record,
    Tally.onDisk_finish]
  rfl

/-- The effect of adding a route, and how the command ends. The tree is any tree in which the module
file names a module. -/
theorem add_bothAdded (project : Project) (request : RouteRequest) {root : Text} {w : World}
    (hModule : ((Project.moduleRoot project.moduleFile).run.run w).1 = .ok root) :
    let names := RouteNames.ofRequest request root
    let routeFile := project.routeFile names.resource
    let controllerFile := project.controllerFile names.resource
    let bind : Text → Except Cause Addition := fun text => RouteFile.addBinding text names
    let define : Text → Except Cause Addition := fun text =>
      .ok (ControllerFile.addStub text names.handler (NewFile.stub names))
    let failed := w.disk.failures routeFile controllerFile bind define
    let after := (add project request).run.run w
    BothAdded w.disk after.2.disk routeFile controllerFile bind define ∧
      routeFile.location ≠ controllerFile.location ∧ (failed = 0 → after.1 = .ok ()) ∧
      (0 < failed → ∃ failure, after.1 = .error failure ∧
        failure.chain = [s!"{failed} of {2} file operations failed"]) := by
  intro names routeFile controllerFile bind define failed after
  have hNames : namesIn w.disk project request = some names := by
    rw [(Job.run_eq_onDisk _ w).1, Project.onDisk_moduleRoot_eq_ok_iff] at hModule
    rw [namesIn, hModule]
    rfl
  have hApart : routeFile.location ≠ controllerFile.location :=
    project.location_routeFile_ne names.resource names.resource
  -- Both names leave room for a temporary file, so that the texts alone decide what happens.
  have hRoute := project.temporaryName_le_routeFile names.resource
  have hController := project.temporaryName_le_controllerFile names.resource
  have hFirst := extended_onDisk routeFile "route binding" (RouteFile.bindingWarnings names) bind w.disk
  have hSecond := extended_onDisk controllerFile "handler stub" (fun _ => []) define
    ((RouteFile.addBindingAt routeFile names).onDisk w.disk).2
  obtain ⟨hEnd, hDisk⟩ := Job.run_eq_onDisk (add project request) w
  rw [onDisk_add hNames] at hEnd hDisk
  have hOutcome := hEnd.trans (hFirst.outcome_both hSecond hApart hRoute hController)
  refine ⟨?_, hApart, fun hNone => ?_, fun hSome => ?_⟩
  · rw [hDisk]
    exact hFirst.bothAdded hSecond hApart hRoute hController
  · rw [hOutcome]
    apply if_neg
    omega
  · exact ⟨_, hOutcome.trans (if_pos hSome), rfl⟩

/-- Without a route file the handler is added all the same. -/
theorem add_bothAdded_missing_route_file :
    let project : Project := { root := Path.ofString "/p", layout := Layout.standard }
    let request : RouteRequest := { resource := "user".toList }
    let place : Location :=
      ["p".toList, "server".toList, "controllers".toList, "user.controller.go".toList]
    let header := "package controllers\n".toList
    let before : World :=
      { disk := ⟨[(place, .file (.text header)), (place.take 3, .directory),
          (["p".toList, "server".toList, "go.mod".toList], .file (.text "module m\n".toList)),
          (place.take 2, .directory), (place.take 1, .directory)]⟩
        messages := [] }
    let new := header ++ '\n' :: NewFile.stub (RouteNames.ofRequest request "m".toList)
    ((Project.moduleRoot project.moduleFile).run.run before).1 = .ok "m".toList ∧
      ((add project request).run.run before).2.disk.lookup place = some (.file (.text new)) ∧
      ∃ failure, ((add project request).run.run before).1 = .error failure ∧
        failure.chain = ["1 of 2 file operations failed"] := by
  intro project request place header before new
  have hModule : ((Project.moduleRoot project.moduleFile).run.run before).1 = .ok "m".toList := by
    rw [(Job.run_eq_onDisk _ before).1, Project.onDisk_moduleRoot_eq_ok_iff]
    decide +kernel
  obtain ⟨hAdded, -, -, hFailed⟩ := add_bothAdded project request hModule
  obtain ⟨failure, hError, hChain⟩ := hFailed (by decide +kernel)
  refine ⟨hModule, hAdded.atSecond place new ⟨by decide +kernel, by decide +kernel⟩, failure, hError,
    hChain.trans ?_⟩
  decide +kernel

end Route

end Scaffold
