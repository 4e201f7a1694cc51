import Scaffold.Proofs.Runs
import Scaffold.Proofs.Text.Lines
import Scaffold.Route.Addition
import Scaffold.Route.NewFile

/-! Handlers that are added one after the other to a controller file. A line that begins the
definition of one handler begins the definition of no other one, even where one name begins with the
other, so each handler that the text does not define gets one stub at its end. -/

namespace Scaffold

namespace Text

/-- The line begins with the text, behind blanks. -/
def beginsWith (start : Text) (line : Line) : Bool :=
  start.isPrefixOf line.trimStart

theorem beginsWith_iff {start : Text} {line : Line} :
    beginsWith start line ↔ start <+: line.trimStart :=
  List.isPrefixOf_iff_prefix

theorem beginsWith_dropReturn {start : Text} (h : start.getLast? ≠ some '\r') (line : Line) :
    beginsWith start (dropReturn line) = beginsWith start line := by
  rcases eq_dropReturn_append line with hLine | hLine
  · rw [← hLine]
  · conv => rhs; rw [hLine]
    rw [Bool.eq_iff_iff, beginsWith_iff, beginsWith_iff, trimStart, trimStart,
      List.dropWhile_append]
    split
    · rename_i hBlank
      rw [List.isEmpty_iff.mp hBlank]
      rfl
    · rw [List.prefix_concat_iff]
      refine ⟨Or.inr, fun hEither => hEither.resolve_left fun hAll => h ?_⟩
      rw [hAll, List.getLast?_concat]

/-- A newline at the end of a text changes its last line by a carriage return at most. -/
theorem any_lines_append_newline {p : Line → Bool} (hNil : p [] = false)
    (hReturn : ∀ line, p (dropReturn line) = p line) (t : Text) :
    (lines (t ++ ['\n'])).any p = (lines t).any p := by
  induction t using line_induction with
  | nil => exact (Bool.or_false _).trans hNil
  | last s hne hs =>
      rw [lines_line_append hs, lines_of_no_newline hne hs, List.any_cons, List.any_cons, hReturn,
        lines_nil]
  | line line rest hLine ih =>
      rw [List.append_assoc, List.cons_append, lines_line_append hLine, lines_line_append hLine,
        List.any_cons, List.any_cons, ih]

theorem append_cons_prefix_append_cons {c : Char} {x y s t : Text} (hx : c ∉ x) (hy : c ∉ y)
    (h : x ++ c :: s <+: y ++ c :: t) : x = y := by
  obtain ⟨rest, hRest⟩ := h
  have hKeep {z : Text} (hz : c ∉ z) (u : Text) : (z ++ c :: u).takeWhile (· ≠ c) = z := by
    have hOthers : ∀ d ∈ z, decide (d ≠ c) = true := fun d hd =>
      decide_eq_true (ne_of_mem_of_not_mem hd hz)
    rw [List.takeWhile_append_of_pos hOthers]
    simp
  rw [List.append_assoc, List.cons_append] at hRest
  rw [← hKeep hx (s ++ rest), hRest, hKeep hy t]

end Text

namespace ControllerFile

open Text

/-- What a function begins with. -/
def func : Text := "func ".toList

theorem func_eq : func = ['f', 'u', 'n', 'c', ' '] := rfl

/-- What the definition of the handler begins with. -/
def signature (handler : Text) : Text :=
  func ++ handler ++ ['(']

/-- The first line of a stub. -/
def headLine (handler : Text) : Line :=
  signature handler ++ "c *fiber.Ctx) error \x7b".toList

/-- The lines of a stub. -/
def stubLines (handler : Text) : List Line := [
  headLine handler,
  "\treturn c.Status(fiber.StatusOK).JSON(fiber.Map\x7b\"status\": \"success\", \"message\": \"".toList
    ++ handler ++ " called\"\x7d)".toList,
  "\x7d".toList]

theorem stub_eq (names : RouteNames) : NewFile.stub names = ofLines (stubLines names.handler) := by
  simp [NewFile.stub, NewFile.stubTemplate, RouteNames.value, stubLines, headLine, signature,
    func_eq]

theorem newline_notMem_stubLines {handler : Text} (h : '\n' ∉ handler) :
    ∀ line ∈ stubLines handler, '\n' ∉ line := by
  simp [stubLines, headLine, signature, func_eq, h]

theorem getLast?_signature (handler : Text) : (signature handler).getLast? = some '(' :=
  List.getLast?_concat

theorem trimStart_headLine (handler : Text) : trimStart (headLine handler) = headLine handler := by
  rw [headLine, signature, func_eq]
  exact List.dropWhile_cons_of_neg (by decide)

/-- The first line of a stub begins the definition of its handler and of no other one. -/
theorem beginsWith_headLine_iff {handler other : Text} (h : '(' ∉ handler) (hOther : '(' ∉ other) :
    beginsWith (signature other) (headLine handler) ↔ other = handler := by
  rw [beginsWith_iff, trimStart_headLine, headLine, signature, signature]
  constructor
  · intro hPrefix
    rw [List.append_assoc, List.append_assoc, List.append_assoc,
      List.prefix_append_right_inj] at hPrefix
    exact append_cons_prefix_append_cons hOther h hPrefix
  · rintro rfl
    exact List.prefix_append _ _

theorem beginsWith_func {handler : Text} {line : Line} (h : beginsWith (signature handler) line) :
    beginsWith func line := by
  rw [beginsWith_iff] at h ⊢
  rw [signature, List.append_assoc] at h
  exact (List.prefix_append _ _).trans h

theorem beginsWith_func_headLine (handler : Text) :
    beginsWith func (headLine handler) := by
  rw [beginsWith_iff, trimStart_headLine, headLine, signature, List.append_assoc, List.append_assoc]
  exact List.prefix_append _ _

/-- A stub begins one function. -/
theorem filter_stubLines (handler : Text) :
    (stubLines handler).filter (beginsWith func) = [headLine handler] := by
  rw [stubLines, List.filter_cons_of_pos (beginsWith_func_headLine handler)]
  rfl

theorem any_stubLines {handler other : Text} (h : '(' ∉ handler) (hOther : '(' ∉ other) :
    (stubLines handler).any (beginsWith (signature other)) ↔ other = handler := by
  rw [← beginsWith_headLine_iff h hOther, List.any_eq_true]
  constructor
  · rintro ⟨line, hMem, hLine⟩
    have hFunc : line ∈ (stubLines handler).filter (beginsWith func) :=
      List.mem_filter.mpr ⟨hMem, beginsWith_func hLine⟩
    rw [filter_stubLines, List.mem_singleton] at hFunc
    rwa [← hFunc]
  · exact fun hHead => ⟨_, List.mem_cons_self .., hHead⟩

theorem beginsWith_signature_dropReturn (handler : Text) (line : Line) :
    beginsWith (signature handler) (dropReturn line) = beginsWith (signature handler) line := by
  refine beginsWith_dropReturn ?_ line
  rw [getLast?_signature]
  decide

theorem defines_append_newline (t u handler : Text) :
    defines (t ++ '\n' :: u) handler = (defines t handler || defines u handler) := by
  have hLast := any_lines_append_newline (p := beginsWith (signature handler))
    rfl (beginsWith_signature_dropReturn handler) t
  rw [defines, lines_append_newline, List.any_append]
  exact congrArg (· || _) hLast

/-- A text with the lines of a stub defines its handler and no other one. -/
theorem defines_stub {handler other : Text} (hWhole : '\n' ∉ handler) (h : '(' ∉ handler)
    (hOther : '(' ∉ other) : defines (ofLines (stubLines handler)) other ↔ other = handler := by
  have hLines := lines_ofLines (newline_notMem_stubLines hWhole)
  rw [← any_stubLines h hOther, defines, hLines, List.any_map]
  exact iff_of_eq (congrArg (fun p => List.any _ p = true)
    (funext (beginsWith_signature_dropReturn other)))

/-- The text with stubs for the handlers at its end. -/
def withHandlers (t : Text) (handlers : List Text) : Text :=
  t ++ handlers.flatMap fun handler => '\n' :: ofLines (stubLines handler)

theorem withHandlers_append_singleton (t : Text) (handlers : List Text) (handler : Text) :
    withHandlers t (handlers ++ [handler]) =
      withHandlers t handlers ++ '\n' :: ofLines (stubLines handler) := by
  rw [withHandlers, withHandlers, List.flatMap_append, List.flatMap_singleton, List.append_assoc]

/-- A handler is defined if it was before or has a stub. -/
theorem defines_withHandlers {t other : Text} {handlers : List Text}
    (h : ∀ handler ∈ handlers, '\n' ∉ handler ∧ '(' ∉ handler) (hOther : '(' ∉ other) :
    defines (withHandlers t handlers) other ↔ defines t other ∨ other ∈ handlers := by
  induction handlers using List.reverseRecOn with
  | nil => simp [withHandlers]
  | append_singleton handlers handler ih =>
      have hBefore := ih fun earlier hMem => h earlier (List.mem_append_left _ hMem)
      obtain ⟨hWhole, hHandler⟩ := h handler (by simp)
      rw [withHandlers_append_singleton, defines_append_newline, Bool.or_eq_true, hBefore,
        defines_stub hWhole hHandler hOther, List.mem_append, List.mem_singleton, or_assoc]

/-- Adds the handlers of the requests one after the other. -/
def addStubs (t : Text) (requests : List RouteNames) : Text :=
  requests.foldl (fun now names => (addStub now names.handler (NewFile.stub names)).textOver now) t

/-- The handlers of the requests that the text does not define, each of them once, in the order in
which they were first asked for. -/
def newHandlers (t : Text) (requests : List RouteNames) : List Text :=
  (fresh (defines t) (requests.map RouteNames.handler)).reverse

theorem addStub_of_defined {t handler stub : Text} (h : defines t handler) :
    addStub t handler stub = .alreadyPresent := by
  rw [addStub, if_pos h]

theorem addStub_of_not_defined {t handler stub : Text} (h : defines t handler = false) :
    addStub t handler stub = .applied (t ++ '\n' :: stub) := by
  rw [addStub, h, if_neg Bool.false_ne_true]

theorem addStub_eq_alreadyPresent_iff {t handler stub : Text} :
    addStub t handler stub = .alreadyPresent ↔ defines t handler := by
  rw [addStub]
  split <;> simp_all

theorem defines_withHandlers_newHandlers {t other : Text} {requests : List RouteNames}
    (h : ∀ names ∈ requests, '\n' ∉ names.handler ∧ '(' ∉ names.handler) (hOther : '(' ∉ other) :
    defines (withHandlers t (newHandlers t requests)) other ↔
      defines t other ∨ other ∈ requests.map RouteNames.handler := by
  have hNew : ∀ handler ∈ newHandlers t requests, '\n' ∉ handler ∧ '(' ∉ handler := by
    intro handler hMem
    rw [newHandlers, List.mem_reverse, mem_fresh_iff] at hMem
    obtain ⟨names, hNames, rfl⟩ := List.mem_map.mp hMem.1
    exact h names hNames
  rw [defines_withHandlers hNew hOther, newHandlers, List.mem_reverse, present_or_mem_fresh_iff]

/-- A run adds one stub for each new handler and changes nothing else. -/
theorem addStubs_eq {t : Text} {requests : List RouteNames}
    (h : ∀ names ∈ requests, '\n' ∉ names.handler ∧ '(' ∉ names.handler) :
    addStubs t requests = withHandlers t (newHandlers t requests) := by
  induction requests using List.reverseRecOn with
  | nil => simp [addStubs, withHandlers, newHandlers, fresh]
  | append_singleton requests names ih =>
      have hBefore : ∀ other ∈ requests, '\n' ∉ other.handler ∧ '(' ∉ other.handler :=
        fun other hMem => h other (List.mem_append_left _ hMem)
      have hDefined := defines_withHandlers_newHandlers (t := t) hBefore (h names (by simp)).2
      rw [addStubs] at ih ⊢
      rw [List.foldl_append, ih hBefore, List.foldl_cons, List.foldl_nil, stub_eq]
      cases hOld : defines (withHandlers t (newHandlers t requests)) names.handler with
      | true =>
          have hSame : newHandlers t (requests ++ [names]) = newHandlers t requests := by
            rw [newHandlers, List.map_append, List.map_singleton,
              fresh_append_of_old (hDefined.mp hOld)]
            rfl
          rw [addStub_of_defined hOld, hSame]
          rfl
      | false =>
          rw [hOld, iff_comm, iff_false_right Bool.false_ne_true, not_or,
            Bool.not_eq_true] at hDefined
          have hMore : newHandlers t (requests ++ [names]) =
              newHandlers t requests ++ [names.handler] := by
            rw [newHandlers, List.map_append, List.map_singleton,
              fresh_append_of_new hDefined.1 hDefined.2, List.reverse_cons]
            rfl
          rw [addStub_of_not_defined hOld, hMore, withHandlers_append_singleton]
          rfl

/-- The lines of the text that begin functions. -/
def functionLines (t : Text) : List Line :=
  t.lines.filter (beginsWith func)

theorem withHandlers_ofLines (ls : List Line) (handlers : List Text) :
    withHandlers (ofLines ls) handlers =
      ofLines (ls ++ handlers.flatMap fun handler => [] :: stubLines handler) := by
  rw [withHandlers, ofLines_append, ofLines, ofLines, List.flatMap_assoc]
  rfl

/-- Behind lines that begin no function, stubs begin one function for each handler. -/
theorem functionLines_withHandlers {ls : List Line} {handlers : List Text}
    (hls : ∀ line ∈ ls, '\n' ∉ line) (hNone : ls.filter (beginsWith func) = [])
    (h : ∀ handler ∈ handlers, '\n' ∉ handler) :
    functionLines (withHandlers (ofLines ls) handlers) = handlers.map headLine := by
  have hWhole : ∀ line ∈ ls ++ handlers.flatMap fun handler => [] :: stubLines handler,
      '\n' ∉ line := by
    intro line hMem
    rcases List.mem_append.mp hMem with hMem | hMem
    · exact hls line hMem
    · obtain ⟨handler, hHandler, hLine⟩ := List.mem_flatMap.mp hMem
      rcases List.mem_cons.mp hLine with rfl | hLine
      · exact List.not_mem_nil
      · exact newline_notMem_stubLines (h handler hHandler) line hLine
  have hKeep : beginsWith func ∘ dropReturn = beginsWith func :=
    funext (beginsWith_dropReturn (by decide))
  have hStub (handler : Text) :
      ([] :: stubLines handler).filter (beginsWith func) = [headLine handler] :=
    filter_stubLines handler
  have hHead (handler : Text) : dropReturn (headLine handler) = headLine handler := by
    refine dropReturn_of_getLast? ?_
    rw [headLine, List.getLast?_append_of_ne_nil _ (by decide)]
    decide
  rw [functionLines, withHandlers_ofLines, lines_ofLines hWhole, List.filter_map, hKeep,
    List.filter_append, hNone, List.filter_flatMap, List.nil_append, List.map_flatMap]
  simp only [hStub, List.map_singleton, hHead]
  exact List.flatMap_pure_eq_map headLine handlers

/-- The lines that begin the definition of a handler. -/
theorem countP_functionLines {t handler : Text} :
    t.lines.countP (beginsWith (signature handler)) =
      (functionLines t).countP (beginsWith (signature handler)) := by
  rw [functionLines, List.countP_filter]
  refine List.countP_congr fun line _ => ?_
  rw [Bool.and_eq_true, iff_self_and]
  exact beginsWith_func

theorem countP_map_headLine {handlers : List Text} {handler : Text}
    (h : ∀ other ∈ handlers, '(' ∉ other) (hHandler : '(' ∉ handler) :
    (handlers.map headLine).countP (beginsWith (signature handler)) = handlers.count handler := by
  rw [List.countP_map, List.count]
  refine List.countP_congr fun other hMem => ?_
  rw [Function.comp_apply, beginsWith_headLine_iff (h other hMem) hHandler, beq_iff_eq, eq_comm]

end ControllerFile

end Scaffold
