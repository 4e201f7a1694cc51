import Scaffold.Proofs.Route.Additions
import Scaffold.Proofs.Route.Handlers
import Scaffold.Proofs.Route.NewFile

/-! The route file and the controller file of one resource. The two are edited by rules that know
nothing of each other: a binding is added unless it is one of the sorted bindings, a handler unless a
line begins its definition. From new files on they stay in step all the same, and every binding refers
to a handler that is defined once. -/

namespace Scaffold

namespace ControllerFile

open Text

/-- The lines that a new controller file starts with. -/
def headerLines : List Line := [
  "package controllers".toList, [], "import (".toList, "\t\"github.com/gofiber/fiber/v2\"".toList,
  ")".toList]

theorem controllerHeader_eq : NewFile.controllerHeader = ofLines headerLines := by decide

theorem defines_eq_false_of_functionLines {t : Text} (h : functionLines t = []) (handler : Text) :
    defines t handler = false := by
  refine Bool.eq_false_iff.mpr fun hDefines => ?_
  obtain ⟨line, hMem, hLine⟩ := List.any_eq_true.mp hDefines
  have hFunction : line ∈ functionLines t := List.mem_filter.mpr ⟨hMem, beginsWith_func hLine⟩
  rw [h] at hFunction
  cases hFunction

theorem defines_controllerHeader (handler : Text) :
    defines NewFile.controllerHeader handler = false :=
  defines_eq_false_of_functionLines (by decide) handler

/-- A new file is the header with the first handler added to it. -/
theorem addStubs_controller (first : RouteNames) (requests : List RouteNames) :
    addStubs (NewFile.controller first) requests =
      addStubs NewFile.controllerHeader (first :: requests) := by
  rw [addStubs, addStubs, List.foldl_cons,
    addStub_of_not_defined (defines_controllerHeader first.handler)]
  rfl

/-- A file that was generated as a whole begins one function for each of the handlers. -/
theorem functionLines_addStubs {first : RouteNames} {requests : List RouteNames}
    (h : ∀ names ∈ first :: requests, names.Plain) :
    ∃ handlers : List Text, handlers.Nodup ∧
      (∀ handler, handler ∈ handlers ↔ handler ∈ (first :: requests).map RouteNames.handler) ∧
      functionLines (addStubs (NewFile.controller first) requests) = handlers.map headLine := by
  have hAll : ∀ names ∈ first :: requests, '\n' ∉ names.handler ∧ '(' ∉ names.handler :=
    fun names hMem => ⟨(h names hMem).whole .handler, (h names hMem).noBracket⟩
  have hMem (handler : Text) : handler ∈ newHandlers NewFile.controllerHeader (first :: requests) ↔
      handler ∈ (first :: requests).map RouteNames.handler := by
    rw [newHandlers, List.mem_reverse, mem_fresh_iff]
    exact and_iff_left (defines_controllerHeader handler)
  refine ⟨newHandlers NewFile.controllerHeader (first :: requests),
    List.nodup_reverse.mpr (nodup_fresh _ _), hMem, ?_⟩
  rw [addStubs_controller, addStubs_eq hAll, controllerHeader_eq]
  refine functionLines_withHandlers (by decide) (by decide) fun handler hHandler => ?_
  rw [← controllerHeader_eq, hMem] at hHandler
  obtain ⟨names, hNames, rfl⟩ := List.mem_map.mp hHandler
  exact (hAll names hNames).1

end ControllerFile

/-- The texts of the two files of a resource. -/
structure RouteTexts where
  route : Text
  controller : Text

namespace RouteTexts

open Text RouteFile ControllerFile

/-- The texts of new files. -/
def create (names : RouteNames) : RouteTexts where
  route := NewFile.route names
  controller := NewFile.controller names

/-- Adds the route to the one text and its handler to the other. -/
def add (texts : RouteTexts) (names : RouteNames) : Except Cause RouteTexts :=
  (addBinding texts.route names).map fun added =>
    { route := added.textOver texts.route
      controller :=
        (addStub texts.controller names.handler (NewFile.stub names)).textOver texts.controller }

/-- Adds the routes of the requests one after the other. -/
def addAll (texts : RouteTexts) (requests : List RouteNames) : Except Cause RouteTexts :=
  requests.foldlM add texts

/-- The two texts do not depend on each other. -/
theorem addAll_eq (texts : RouteTexts) (requests : List RouteNames) :
    addAll texts requests = (addBindings texts.route requests).map fun route =>
      { route, controller := addStubs texts.controller requests } := by
  induction requests using List.reverseRecOn with
  | nil => rfl
  | append_singleton requests names ih =>
      rw [addAll] at ih ⊢
      rw [foldlM_append_singleton, ih, addBindings, addBindings, foldlM_append_singleton, addStubs,
        addStubs, List.foldl_append]
      -- The handlers have a say in no failure, so the last step fails where its binding does.
      cases requests.foldlM (fun now names => (addBinding now names).map (Addition.textOver now))
          texts.route with
      | error cause => rfl
      | ok now =>
          change add _ names = ((addBinding now names).map (Addition.textOver now)).map _
          rw [add]
          cases addBinding now names <;> rfl

/-- The texts tell of the same routes, `first` and those in `done`. -/
structure InStep (first : RouteNames) (done : List RouteNames) (texts : RouteTexts) : Prop where
  bindings : ∀ statement, statement ∈ (ofText texts.route).bindings ↔
    statement = NewFile.firstBinding first ∨ statement ∈ done.map RouteNames.binding
  /-- Each handler is defined once. -/
  once : ∀ names ∈ first :: done,
    texts.controller.lines.countP (beginsWith (signature names.handler)) = 1
  /-- No other function is defined. -/
  noOther : ∀ line ∈ texts.controller.lines, beginsWith func line →
    ∃ names ∈ first :: done, beginsWith (signature names.handler) line
  /-- No binding refers to a handler that is not defined. -/
  referred : ∀ statement ∈ (ofText texts.route).bindings, ∃ names ∈ first :: done,
    ", controllers.".toList ++ names.handler ++ [')'] <:+ statement ∧
      defines texts.controller names.handler

section InStep

variable {first : RouteNames} {requests : List RouteNames}

theorem once_addStubs (h : ∀ names ∈ first :: requests, names.Plain) :
    ∀ names ∈ first :: requests,
      (addStubs (NewFile.controller first) requests).lines.countP
        (beginsWith (signature names.handler)) = 1 := by
  intro names hMem
  obtain ⟨handlers, hNodup, hHandlers, hLines⟩ := functionLines_addStubs h
  have hNames : names.handler ∈ handlers := (hHandlers _).mpr (List.mem_map_of_mem hMem)
  have hBracket : ∀ other ∈ handlers, '(' ∉ other := by
    intro other hOther
    obtain ⟨names, hMem, rfl⟩ := List.mem_map.mp ((hHandlers other).mp hOther)
    exact (h names hMem).noBracket
  rw [countP_functionLines, hLines, countP_map_headLine hBracket (hBracket _ hNames)]
  exact List.count_eq_one_of_mem hNodup hNames

theorem noOther_addStubs (h : ∀ names ∈ first :: requests, names.Plain) {line : Line}
    (hMem : line ∈ (addStubs (NewFile.controller first) requests).lines)
    (hLine : beginsWith func line) :
    ∃ names ∈ first :: requests, beginsWith (signature names.handler) line := by
  obtain ⟨handlers, -, hHandlers, hLines⟩ := functionLines_addStubs h
  have hFunction : line ∈ handlers.map headLine := by
    rw [← hLines]
    exact List.mem_filter.mpr ⟨hMem, hLine⟩
  obtain ⟨handler, hHandler, rfl⟩ := List.mem_map.mp hFunction
  obtain ⟨names, hNames, rfl⟩ := List.mem_map.mp ((hHandlers handler).mp hHandler)
  have hBracket := (h names hNames).noBracket
  exact ⟨names, hNames, (beginsWith_headLine_iff hBracket hBracket).mpr rfl⟩

theorem refers_binding (names : RouteNames) :
    ", controllers.".toList ++ names.handler ++ [')'] <:+ names.binding :=
  ⟨names.groupVar ++ '.' :: names.method ++ "(\"/".toList ++ names.urlPath ++ ['"'], by
    simp [RouteNames.binding]⟩

theorem refers_firstBinding (names : RouteNames) :
    ", controllers.".toList ++ names.handler ++ [')'] <:+ NewFile.firstBinding names :=
  ⟨names.groupVar ++ '.' :: names.method ++ "(\"/\"".toList, by simp [NewFile.firstBinding]⟩

/-- A run from new files does not fail, and it ends with files that are in step. -/
theorem exists_addAll (h : ∀ names ∈ first :: requests, names.Plain)
    (hFirst : (NewFile.firstBinding first).includes ".Group(".toList = false)
    (hRequests : ∀ names ∈ requests, names.binding.includes ".Group(".toList = false) :
    ∃ texts, addAll (create first) requests = .ok texts ∧ InStep first requests texts := by
  have hPlain : first.Plain := h first (List.mem_cons_self ..)
  have hAdmissible : ∀ names ∈ requests, names.Admissible := fun names hMem =>
    (h names (List.mem_cons_of_mem _ hMem)).admissible (hRequests names hMem)
  obtain ⟨route, hRun, hReached⟩ :=
    exists_reached (NewFile.singleBlock_route hPlain hFirst) hAdmissible
  have hBindings : ∀ statement, statement ∈ (ofText route).bindings ↔
      statement = NewFile.firstBinding first ∨ statement ∈ requests.map RouteNames.binding := by
    intro statement
    rw [hReached.mem_bindings_iff, NewFile.bindings_route hPlain hFirst, List.mem_singleton]
  have hOnce := once_addStubs h
  refine ⟨⟨route, addStubs (NewFile.controller first) requests⟩, ?_, hBindings, hOnce,
    fun line => noOther_addStubs h, fun statement hMem => ?_⟩
  · change addAll ⟨NewFile.route first, NewFile.controller first⟩ requests = _
    rw [addAll_eq, hRun]
    rfl
  · have hRefers : ∃ names ∈ first :: requests,
        ", controllers.".toList ++ names.handler ++ [')'] <:+ statement := by
      rcases (hBindings statement).mp hMem with rfl | hMem
      · exact ⟨first, List.mem_cons_self .., refers_firstBinding first⟩
      · obtain ⟨names, hNames, rfl⟩ := List.mem_map.mp hMem
        exact ⟨names, List.mem_cons_of_mem _ hNames, refers_binding names⟩
    obtain ⟨names, hNames, hEnd⟩ := hRefers
    refine ⟨names, hNames, hEnd, ?_⟩
    have hSome : 0 < (addStubs (NewFile.controller first) requests).lines.countP
        (beginsWith (signature names.handler)) := by
      rw [hOnce names hNames]
      exact Nat.one_pos
    exact List.any_eq_true.mpr (List.countP_pos_iff.mp hSome)

/-- The two files of a resource are in step at every point of a run of additions, whatever the order
and the repetitions of the requests. -/
theorem exists_inStep (h : ∀ names ∈ first :: requests, names.Plain)
    (hFirst : (NewFile.firstBinding first).includes ".Group(".toList = false)
    (hRequests : ∀ names ∈ requests, names.binding.includes ".Group(".toList = false)
    (done : List RouteNames) (hDone : done <+: requests) :
    ∃ texts, addAll (create first) done = .ok texts ∧ InStep first done texts := by
  refine exists_addAll (fun names hMem => h names ?_) hFirst fun names hMem =>
    hRequests names (hDone.subset hMem)
  rcases List.mem_cons.mp hMem with rfl | hMem
  · exact List.mem_cons_self ..
  · exact List.mem_cons_of_mem _ (hDone.subset hMem)

end InStep

/-- A handler under two paths, and a handler whose name begins with the name of the first one. -/
theorem exists_inStep_alike :
    let first := RouteNames.ofRequest { resource := "user".toList } []
    let requests := [
      RouteNames.ofRequest { resource := "user".toList, path := some "a".toList } [],
      RouteNames.ofRequest { resource := "user".toList, function := some "GetUserById".toList } []]
    (∀ names ∈ first :: requests, names.Plain) ∧
      (NewFile.firstBinding first).includes ".Group(".toList = false ∧
      (∀ names ∈ requests, names.binding.includes ".Group(".toList = false) ∧
      requests <+: requests ∧
      ∃ texts, addAll (create first) requests = .ok texts ∧ InStep first requests texts := by
  intro first requests
  have hPlain : ∀ names ∈ first :: requests, names.Plain := by
    have hNames : ∀ names ∈ first :: requests, (∀ field ∈ [NameField.titled, .groupVar, .urlPath,
        .method, .handler, .moduleRoot], '\n' ∉ names.value field) ∧ '(' ∉ names.handler ∧
        names.groupVar.head? ≠ some '\x7d' := by
      decide +kernel
    intro names hMem
    obtain ⟨hWhole, hBracket, hBrace⟩ := hNames names hMem
    refine ⟨?_, fun field => hWhole field (by cases field <;> simp), hBracket, hBrace⟩
    simp only [first, requests, List.mem_cons, List.not_mem_nil, or_false] at hMem
    rcases hMem with rfl | rfl | rfl <;> exact ⟨_, _, rfl⟩
  have hFirst : (NewFile.firstBinding first).includes ".Group(".toList = false := by decide +kernel
  have hRequests : ∀ names ∈ requests, names.binding.includes ".Group(".toList = false := by
    decide +kernel
  exact ⟨hPlain, hFirst, hRequests, List.prefix_rfl,
    exists_inStep hPlain hFirst hRequests requests List.prefix_rfl⟩

end RouteTexts

end Scaffold
