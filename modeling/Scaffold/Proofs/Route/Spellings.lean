import Mathlib.Data.List.TFAE
import Mathlib.Tactic.TFAE
import Scaffold.Proofs.Disk.Below
import Scaffold.Proofs.Text.AsciiCase
import Scaffold.Route.Names
import Scaffold.Settings.Project

namespace Scaffold

namespace Path

/-- From one base two relative names lead to different paths, and so do two absolute ones. -/
theorem join_right_inj (base : Path) {a b : Text} (h : a.head? = some '/' ↔ b.head? = some '/') :
    base.join a = base.join b ↔ a = b := by
  refine ⟨fun hEq => ?_, congrArg base.join⟩
  simp only [join, h] at hEq
  split_ifs at hEq
  · exact Path.mk.inj hEq
  · exact List.append_cancel_left (Path.mk.inj hEq)
  · exact (List.cons.inj (List.append_cancel_left (Path.mk.inj hEq))).2

/-- A relative base does not make a name absolute. -/
theorem isAbsolute_join_of_relative {base : Path} (h : base.isAbsolute = false) (name : Text) :
    (base.join name).isAbsolute ↔ name.head? = some '/' := by
  by_cases hName : name.head? = some '/'
  · rw [join_of_absolute base hName]
    simp [isAbsolute, hName]
  · rw [isAbsolute_join base hName, h]
    simp [hName]

end Path

namespace Project

/-- Two names that lead to the same path in every project are the same name. -/
theorem forall_join_eq_iff (key : LayoutKey) {a b : Text} :
    (∀ project : Project, (project.place key).join a = (project.place key).join b) ↔ a = b := by
  refine ⟨fun h => ?_, fun h project => congrArg (project.place key).join h⟩
  -- A project in the working directory tells relative names and absolute ones apart.
  have hSame := h ⟨⟨[]⟩, Layout.standard⟩
  have hRelative : (place ⟨⟨[]⟩, Layout.standard⟩ key).isAbsolute = false := by
    cases key <;> decide
  refine (Path.join_right_inj _ ?_).mp hSame
  rw [← Path.isAbsolute_join_of_relative hRelative a, hSame,
    Path.isAbsolute_join_of_relative hRelative]

theorem forall_routeFile_eq_iff {a b : Text} :
    (∀ project : Project, project.routeFile a = project.routeFile b) ↔ a.lower = b.lower :=
  (forall_join_eq_iff .routesDir).trans (List.append_left_inj _)

theorem forall_controllerFile_eq_iff {a b : Text} :
    (∀ project : Project, project.controllerFile a = project.controllerFile b) ↔
      a.lower = b.lower :=
  (forall_join_eq_iff .controllersDir).trans (List.append_left_inj _)

end Project

/-- The request overrides neither the name of the handler nor the path. -/
structure RouteRequest.LeavesNames (request : RouteRequest) : Prop where
  function : request.function.bind Text.nonBlank? = none
  path : request.path.bind Text.nonBlank? = none

namespace RouteNames

open Text

variable {request other : RouteRequest}

theorem urlPath_of_leavesNames (h : request.LeavesNames) (moduleRoot : Text) :
    (ofRequest request moduleRoot).urlPath = request.resource.trim.lower := by
  simp only [ofRequest, h.path]

theorem handler_of_leavesNames (h : request.LeavesNames) (moduleRoot : Text) :
    (ofRequest request moduleRoot).handler = "Get".toList ++ request.resource.trim.title := by
  simp only [ofRequest, h.function, Option.getD_none]

end RouteNames

end Scaffold
