import Scaffold.Proofs.Disk.Places
import Scaffold.Settings.Project

namespace Scaffold

open FileTree

namespace Path

variable {extension other : Text}

/-- The place of a path with an extension has the extension in its last name. -/
theorem exists_location_extend (p : Path) :
    ∃ here last, ∀ extension, IsExtension extension →
      (p.extend extension).location = here ++ [last ++ extension] ∧
        (p.extend extension).fileName = last ++ extension := by
  obtain ⟨above, last, hSteps⟩ := p.exists_steps_extend
  refine ⟨above.foldl follow [], last, fun extension h => ⟨?_, ?_⟩⟩
  · rw [location, hSteps extension h, List.foldl_append, List.foldl_cons, List.foldl_nil, follow,
      if_neg (append_ne h last (by decide)), if_neg (append_ne h last (by decide))]
  · rw [fileName, hSteps extension h]
    simp

theorem byteSize_fileName_extend (h : IsExtension extension) (p : Path) :
    Text.byteSize extension ≤ Text.byteSize (p.extend extension).fileName := by
  obtain ⟨here, last, hPlace⟩ := p.exists_location_extend
  rw [(hPlace extension h).2, Text.byteSize_append]
  omega

/-- Extensions of which neither ends in the other lead to different places. -/
theorem location_extend_ne (h : IsExtension extension) (hOther : IsExtension other)
    (hEnd : ¬ extension <:+ other) (hLength : extension.length ≤ other.length) (p q : Path) :
    (p.extend extension).location ≠ (q.extend other).location := by
  obtain ⟨here, last, hPlace⟩ := p.exists_location_extend
  obtain ⟨here', last', hPlace'⟩ := q.exists_location_extend
  rw [(hPlace extension h).1, (hPlace' other hOther).1]
  intro hSame
  have hNames : last ++ extension = last' ++ other :=
    List.singleton_inj.mp (List.append_inj' hSame rfl).2
  apply hEnd
  exact List.suffix_of_suffix_length_le ⟨last, hNames⟩ ⟨last', rfl⟩ hLength

end Path

namespace Project

open Scaffold.Path

theorem isExtension_routes : IsExtension ".routes.go".toList := ⟨by decide, by decide⟩

theorem isExtension_controller : IsExtension ".controller.go".toList := ⟨by decide, by decide⟩

theorem routeFile_eq_extend (project : Project) (resource : Text) :
    project.routeFile resource =
      ((project.place .routesDir).join resource.lower).extend ".routes.go".toList :=
  join_append _ _ (by decide)

theorem controllerFile_eq_extend (project : Project) (resource : Text) :
    project.controllerFile resource =
      ((project.place .controllersDir).join resource.lower).extend ".controller.go".toList :=
  join_append _ _ (by decide)

/-- The name of a route file is long enough for a temporary file beside it. -/
theorem temporaryName_le_routeFile (project : Project) (resource : Text) :
    Text.byteSize temporaryName ≤ Text.byteSize (project.routeFile resource).fileName := by
  rw [routeFile_eq_extend]
  exact le_trans (by decide) (byteSize_fileName_extend isExtension_routes _)

theorem temporaryName_le_controllerFile (project : Project) (resource : Text) :
    Text.byteSize temporaryName ≤ Text.byteSize (project.controllerFile resource).fileName := by
  rw [controllerFile_eq_extend]
  exact le_trans (by decide) (byteSize_fileName_extend isExtension_controller _)

/-- No route file is a controller file. -/
theorem location_routeFile_ne (project : Project) (resource other : Text) :
    (project.routeFile resource).location ≠ (project.controllerFile other).location := by
  rw [routeFile_eq_extend, controllerFile_eq_extend]
  exact location_extend_ne isExtension_routes isExtension_controller (by decide) (by decide) _ _

end Project

end Scaffold
