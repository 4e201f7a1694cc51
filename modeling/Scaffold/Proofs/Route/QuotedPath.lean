import Mathlib.Data.List.TFAE
import Mathlib.Tactic.TFAE
import Scaffold.Proofs.Route.NewFile
import Scaffold.Proofs.Text.Recased

namespace Scaffold

namespace Text

/-- A second slash in quotes is the first character of what the first one stands before. -/
theorem doubleSlash_prefix_iff {lead path rest : Text} (h : rest.head? ≠ some '/') :
    lead ++ "//".toList <+: lead ++ ('/' :: path ++ rest) ↔ path.head? = some '/' := by
  have hSlashes : "//".toList = ['/', '/'] := rfl
  rw [List.prefix_append_right_inj, hSlashes, List.cons_append, List.cons_prefix_cons,
    and_iff_right rfl]
  cases path with
  | nil =>
      refine iff_of_false (fun hPrefix => h ?_) (by simp)
      obtain ⟨more, rfl⟩ := hPrefix
      rfl
  | cons c path =>
      rw [List.cons_append, List.cons_prefix_cons, and_iff_left List.nil_prefix, List.head?_cons,
        Option.some_inj, eq_comm]

end Text

namespace RouteNames

open Text NewFile

/-- The binding up to the quote before its path. -/
def bindingLead (names : RouteNames) : Text :=
  names.groupVar ++ '.' :: names.method ++ "(\"".toList

/-- The text of a new route file up to the quote before the path of its group. -/
def groupLead (names : RouteNames) : Text :=
  ofLines (importLines names ++ [functionLine names]) ++
    '\t' :: names.groupVar ++ " := api.Group(\"".toList

theorem exists_binding_eq (names : RouteNames) :
    ∃ rest, names.binding = names.bindingLead ++ ('/' :: names.urlPath ++ '"' :: rest) :=
  ⟨", controllers.".toList ++ names.handler ++ [')'], by simp [binding, bindingLead]⟩

theorem exists_route_eq (names : RouteNames) :
    ∃ rest, NewFile.route names = names.groupLead ++ ('/' :: names.urlPath ++ '"' :: rest) := by
  refine ⟨')' :: '\n' :: ofLines ['\t' :: firstBinding names, "\x7d".toList], ?_⟩
  rw [route_eq, blockLines, groupLead]
  simp [ofLines_append, groupStatement]

/-- The path comes from the user without leading slashes, or else from the resource as it is. -/
theorem head?_urlPath_iff (request : RouteRequest) (moduleRoot : Text) :
    (ofRequest request moduleRoot).urlPath.head? = some '/' ↔
      request.path.bind nonBlank? = none ∧ request.resource.trim.head? = some '/' := by
  cases hPath : request.path.bind nonBlank? with
  | none =>
      simp only [ofRequest, hPath, true_and]
      exact (recased_lower _).head?_eq_slash_iff
  | some path =>
      simp only [ofRequest, hPath]
      exact iff_of_false (head?_dropLeading_ne '/' path) (by simp)

/-- Two slashes stand at the start of the path in the binding, and in the group of a new file, exactly
if the user gives no path and the resource begins with a slash. -/
theorem doubleSlash_tfae (request : RouteRequest) (moduleRoot : Text) :
    let names := ofRequest request moduleRoot
    List.TFAE [
      names.urlPath.head? = some '/',
      names.bindingLead ++ "//".toList <+: names.binding,
      names.groupLead ++ "//".toList <+: NewFile.route names,
      request.path.bind nonBlank? = none ∧ request.resource.trim.head? = some '/'] := by
  intro names
  tfae_have 1 ↔ 4 := head?_urlPath_iff request moduleRoot
  tfae_have 2 ↔ 1 := by
    obtain ⟨rest, hBinding⟩ := names.exists_binding_eq
    rw [hBinding]
    exact doubleSlash_prefix_iff (by simp)
  tfae_have 3 ↔ 1 := by
    obtain ⟨rest, hRoute⟩ := names.exists_route_eq
    rw [hRoute]
    exact doubleSlash_prefix_iff (by simp)
  tfae_finish

/-- The default path of a resource that begins with a slash begins with that slash. -/
theorem doubleSlash_binding :
    let names := ofRequest { resource := "/x".toList } []
    names.urlPath.head? = some '/' ∧
      names.binding = "/xRoutes.Get(\"//x\", controllers.Get/X)".toList ∧
      groupStatement names = "/xRoutes := api.Group(\"//x\")".toList ∧
      names.bindingLead ++ "//".toList <+: names.binding ∧
      names.groupLead ++ "//".toList <+: NewFile.route names := by
  decide +kernel

end RouteNames

end Scaffold
