import Scaffold.Proofs.Route.SingleBlock
import Scaffold.Route.NewFile

namespace Scaffold

namespace RouteNames

open Text

/-- Names of a request that generated code can be told by: each generated line is one line, the name
of a handler ends at a bracket, and no statement about the group looks like the end of a block. -/
structure Plain (names : RouteNames) : Prop where
  requested : names.Requested
  whole : ∀ field : NameField, '\n' ∉ names.value field
  noBracket : '(' ∉ names.handler
  noBrace : names.groupVar.head? ≠ some '\x7d'

variable {names : RouteNames}

/-- A statement that starts with the group variable starts with a character other than a blank. -/
theorem Requested.exists_head_groupVar (h : names.Requested) :
    ∃ c rest, names.groupVar = c :: rest ∧ isBlank c = false := by
  obtain ⟨request, moduleRoot, rfl⟩ := h
  have hVar : (ofRequest request moduleRoot).groupVar =
      Text.lower request.resource.trim ++ "Routes".toList := rfl
  cases hLower : Text.lower request.resource.trim with
  | nil => exact ⟨'R', "outes".toList, by rw [hVar, hLower]; rfl, by decide⟩
  | cons c rest =>
      refine ⟨c, rest ++ "Routes".toList, by rw [hVar, hLower]; rfl, ?_⟩
      exact not_isBlank_head_lower (bare_trim _).1 c (by rw [hLower]; rfl)

/-- What starts with the group variable and ends with a bracket neither opens nor closes a block. -/
theorem Plain.statement (h : names.Plain) {rest : Text} (hEnd : rest.getLast? = some ')') :
    trim (names.groupVar ++ rest) = names.groupVar ++ rest ∧
      opens (names.groupVar ++ rest) = false ∧ closes (names.groupVar ++ rest) = false := by
  obtain ⟨c, more, hVar, hBlank⟩ := h.requested.exists_head_groupVar
  have hHead : (names.groupVar ++ rest).head? = some c := by rw [hVar]; rfl
  have hLast : (names.groupVar ++ rest).getLast? = some ')' := by
    rw [List.getLast?_append, hEnd]
    rfl
  have hTrim : trim (names.groupVar ++ rest) = names.groupVar ++ rest := by
    refine trim_eq_self_iff.mpr ⟨fun d hd => ?_, fun d hd => ?_⟩
    · rw [hHead] at hd
      rwa [← Option.some.inj hd]
    · rw [hLast] at hd
      obtain rfl := Option.some.inj hd
      decide
  have hBrace : c ≠ '\x7d' := fun hEq => h.noBrace (by rw [hVar, hEq]; rfl)
  refine ⟨hTrim, ?_, ?_⟩
  · rw [opens, hTrim, hLast]
    rfl
  · rw [closes, hTrim, hHead, beq_eq_false_iff_ne.mpr (by simpa using hBrace)]
    rfl

theorem Plain.admissible (h : names.Plain) (hGroup : names.binding.includes ".Group(".toList = false) :
    names.Admissible := by
  obtain ⟨c, rest, hVar, -⟩ := h.requested.exists_head_groupVar
  have hWhole := h.whole
  refine ⟨h.requested, ?_, hGroup, fun hHead => h.noBrace ?_⟩
  · simp [binding, show '\n' ∉ names.groupVar from hWhole .groupVar,
      show '\n' ∉ names.method from hWhole .method, show '\n' ∉ names.urlPath from hWhole .urlPath,
      show '\n' ∉ names.handler from hWhole .handler]
  · rw [binding, hVar] at hHead
    rw [hVar]
    exact hHead

end RouteNames

namespace NewFile

open Text Surroundings RouteFile RouteNames

/-- The first binding of a new route file. It binds the group itself. -/
def firstBinding (names : RouteNames) : Line :=
  names.groupVar ++
    ('.' :: names.method ++ "(\"/\", controllers.".toList ++ names.handler ++ [')'])

/-- The lines of a new route file above the function. -/
def importLines (names : RouteNames) : List Line := [
  "package routes".toList, [], "import (".toList, "\t\"github.com/gofiber/fiber/v2\"".toList,
  "\t\"".toList ++ names.moduleRoot ++ "/controllers\"".toList, ")".toList, []]

/-- The line of a new route file that opens the function. -/
def functionLine (names : RouteNames) : Line :=
  "func ".toList ++ names.titled ++ "Routes(api fiber.Router) \x7b".toList

theorem functionLine_eq (names : RouteNames) :
    functionLine names =
      'f' :: ("unc ".toList ++ names.titled ++ "Routes(api fiber.Router) \x7b".toList) := rfl

/-- The statement of a new route file that declares the group. -/
def groupStatement (names : RouteNames) : Line :=
  names.groupVar ++ (" := api.Group(\"/".toList ++ names.urlPath ++ "\")".toList)

/-- The lines of a new route file above the closing line. -/
def blockLines (names : RouteNames) : List Line :=
  importLines names ++
    [functionLine names, '\t' :: groupStatement names, '\t' :: firstBinding names]

theorem route_eq (names : RouteNames) :
    route names = ofLines (blockLines names ++ ["\x7d".toList]) := by
  simp [route, routeTemplate, RouteNames.value, blockLines, importLines, functionLine_eq,
    groupStatement, firstBinding]

/-- No line above the function of a new route file opens or closes a block. -/
theorem plain_importLines (names : RouteNames) :
    ∀ line ∈ importLines names, line.opens = false ∧ line.closes = false := by
  have hLast : ("\t\"".toList ++ names.moduleRoot ++ "/controllers\"".toList).getLast? =
      some '"' := by
    rw [List.getLast?_append_of_ne_nil _ (by decide)]
    rfl
  have hTrim : trim ("\t\"".toList ++ names.moduleRoot ++ "/controllers\"".toList) =
      trim ('"' :: names.moduleRoot ++ "/controllers\"".toList) := trim_tab _
  have hQuote : closes ('"' :: names.moduleRoot ++ "/controllers\"".toList) = false :=
    closes_of_head? rfl (by decide) (by decide)
  rw [importLines]
  simp only [List.forall_mem_cons, opens_of_getLast? hLast (by decide),
    (closes_of_trim_eq hTrim).trans hQuote]
  decide

/-- In a function that declares a group and then binds a route, this is the one binding. -/
theorem boundLines_function {above : List Line} {opening group line : Line}
    (h : ∀ other ∈ above, other.opens = false) (hOpens : opening.opens)
    (hGroup : group.namesGroup) (hCloses : group.closes = false) (hLine : line.isBindable) :
    boundLines {} (above ++ [opening, group, line]) = [line] := by
  -- As long as no line opens a block the state is the one at the start, which admits no binding.
  have hAbove : boundLines {} above = [] := by
    refine List.eq_nil_iff_forall_not_mem.mpr fun bound hBound => ?_
    obtain ⟨front, back, rfl, hRole⟩ := mem_boundLines_iff.mp hBound
    rw [afterLines_of_not_opens fun other hMem => h other (List.mem_append_left _ hMem)] at hRole
    exact Bool.false_ne_true (roleOf_eq_binding_iff.mp hRole).1
  have hOpening (s : Surroundings) : s.roleOf opening = .opening := by
    rw [roleOf_eq, if_pos hOpens]
  rw [namesGroup, Bool.and_eq_true, Bool.not_eq_true'] at hGroup
  have hDeclares : roleOf { inBlock := true } group = .group := by
    rw [roleOf_eq, hGroup.2, hCloses, hGroup.1]
    rfl
  have hBound : roleOf { inBlock := true, grouped := true } line = .binding :=
    roleOf_eq_binding_iff.mpr ⟨rfl, rfl, hLine⟩
  rw [boundLines_append, hAbove, afterLines_of_not_opens h, boundLines_cons, hOpening]
  simp only [after, boundLines_cons, hDeclares, hBound]
  rfl

theorem functionLine_opens (names : RouteNames) : (functionLine names).opens := by
  have hLast : (functionLine names).getLast? = some '\x7b' := by
    rw [functionLine_eq, ← List.cons_append, List.getLast?_append_of_ne_nil _ (by decide)]
    rfl
  rw [opens_of_getLast? hLast (by decide)]
  rfl

variable {names : RouteNames}

theorem plain_groupLine (h : names.Plain) :
    namesGroup ('\t' :: groupStatement names) ∧ closes ('\t' :: groupStatement names) = false := by
  have hEnd : (" := api.Group(\"/".toList ++ names.urlPath ++ "\")".toList).getLast? = some ')' := by
    rw [List.getLast?_append_of_ne_nil _ (by decide)]
    rfl
  obtain ⟨-, hOpens, hCloses⟩ := h.statement hEnd
  have hNamed : (groupStatement names).includes ".Group(".toList := by
    rw [includes_iff, groupStatement]
    exact ⟨names.groupVar ++ " := api".toList, "\"/".toList ++ names.urlPath ++ "\")".toList, by
      simp⟩
  rw [namesGroup_of_trim_eq (trim_tab _), closes_of_trim_eq (trim_tab _), namesGroup, hNamed,
    groupStatement, hOpens]
  exact ⟨rfl, hCloses⟩

theorem plain_bindingLine (h : names.Plain)
    (hGroup : (firstBinding names).includes ".Group(".toList = false) :
    isBindable ('\t' :: firstBinding names) ∧ trim ('\t' :: firstBinding names) = firstBinding names := by
  have hEnd : ('.' :: names.method ++ "(\"/\", controllers.".toList ++ names.handler ++
      [')']).getLast? = some ')' := List.getLast?_concat
  obtain ⟨hTrim, hOpens, hCloses⟩ := h.statement hEnd
  have hRoutes : (firstBinding names).includes "Routes.".toList := by
    obtain ⟨request, moduleRoot, rfl⟩ := h.requested
    exact includes_iff.mpr ⟨Text.lower request.resource.trim, _, by simp [firstBinding, ofRequest]; rfl⟩
  rw [isBindable_of_trim_eq (trim_tab _), trim_tab]
  exact ⟨isBindable_iff.mpr ⟨hRoutes, hGroup, hOpens, hCloses⟩, hTrim⟩

theorem getLast?_blockLines (names : RouteNames) :
    ∀ line ∈ blockLines names ++ ["\x7d".toList], line.getLast? ≠ some '\r' := by
  simp [blockLines, importLines, functionLine_eq, groupStatement, firstBinding, List.getLast?_append,
    List.getLast?_cons]

theorem newline_notMem_blockLines (h : names.Plain) :
    ∀ line ∈ blockLines names ++ ["\x7d".toList], '\n' ∉ line := by
  simp [blockLines, importLines, functionLine_eq, groupStatement, firstBinding,
    show '\n' ∉ names.groupVar from h.whole .groupVar,
    show '\n' ∉ names.method from h.whole .method, show '\n' ∉ names.urlPath from h.whole .urlPath,
    show '\n' ∉ names.handler from h.whole .handler, show '\n' ∉ names.titled from h.whole .titled,
    show '\n' ∉ names.moduleRoot from h.whole .moduleRoot]

theorem lines_route (h : names.Plain) :
    (route names).lines = blockLines names ++ ["\x7d".toList] := by
  rw [route_eq, lines_ofLines (newline_notMem_blockLines h)]
  exact map_dropReturn_eq_self_iff.mpr (getLast?_blockLines names)

theorem block_route (h : names.Plain)
    (hGroup : (firstBinding names).includes ".Group(".toList = false) :
    Block (blockLines names) "\x7d".toList [] := by
  obtain ⟨hNamed, hCloses⟩ := plain_groupLine h
  obtain ⟨hBindable, -⟩ := plain_bindingLine h hGroup
  refine
    { noReturn := getLast?_blockLines names
      closes := by decide
      others := fun line hMem => ?_
      once := by decide
      behind := by simp
      armed := ⟨functionLine names, '\t' :: groupStatement names, ?_, functionLine_opens names,
        hNamed⟩ }
  · rw [List.append_nil, blockLines, List.mem_append] at hMem
    rcases hMem with hImport | hFunction
    · exact (plain_importLines names line hImport).2
    · simp only [List.mem_cons, List.not_mem_nil, or_false] at hFunction
      rcases hFunction with rfl | rfl | rfl
      · exact closes_of_opens (functionLine_opens names)
      · exact hCloses
      · exact closes_of_isBindable hBindable
  · exact (List.sublist_append_left [functionLine names, '\t' :: groupStatement names]
      ['\t' :: firstBinding names]).trans (List.sublist_append_right _ _)

theorem singleBlock_route (h : names.Plain)
    (hGroup : (firstBinding names).includes ".Group(".toList = false) :
    SingleBlock (route names) :=
  ⟨_, _, _, lines_route h, block_route h hGroup⟩

/-- A new route file has one binding. -/
theorem bindings_route (h : names.Plain)
    (hGroup : (firstBinding names).includes ".Group(".toList = false) :
    (ofText (route names)).bindings = [firstBinding names] := by
  obtain ⟨hBindable, hTrim⟩ := plain_bindingLine h hGroup
  obtain ⟨hNamed, hCloses⟩ := plain_groupLine h
  have hSolid : solid (blockLines names) = solid (importLines names) ++
      [functionLine names, '\t' :: groupStatement names, '\t' :: firstBinding names] := by
    rw [blockLines, solid_append,
      solid_cons_of_solid (isEmptyLine_eq_false rfl opens_of_trim_eq (functionLine_opens names)),
      solid_cons_of_solid (isEmptyLine_eq_false rfl namesGroup_of_trim_eq hNamed),
      solid_cons_of_solid (isEmptyLine_eq_false rfl isBindable_of_trim_eq hBindable)]
    rfl
  have hAbove : ∀ line ∈ solid (importLines names), line.opens = false := fun line hMem =>
    (plain_importLines names line (List.mem_of_mem_filter hMem)).1
  rw [(block_route h hGroup).ofText_eq (lines_route h), hSolid,
    boundLines_function hAbove (functionLine_opens names) hNamed hCloses hBindable,
    List.map_singleton, hTrim]
  rfl

end NewFile

end Scaffold
