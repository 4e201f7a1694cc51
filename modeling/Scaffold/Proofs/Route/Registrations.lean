import Scaffold.Proofs.Route.Binding
import Scaffold.Proofs.Route.MarkerLine
import Scaffold.Proofs.Runs

namespace Scaffold

namespace RouteNames

open Text

variable {names : RouteNames}

theorem Requested.titled_eq (h : names.Requested) :
    names.titled = names.resource.title ∧ Bare names.resource := by
  obtain ⟨request, moduleRoot, rfl⟩ := h
  exact ⟨rfl, bare_trim _⟩

theorem Requested.trim_registration (h : names.Requested) :
    names.registration.trim = names.registration := by
  obtain ⟨hTitled, hBare⟩ := h.titled_eq
  refine trim_eq_self_iff.mpr ⟨fun c hc => ?_, fun c hc => ?_⟩
  · rw [registration, hTitled, List.head?_append, Option.mem_def, Option.or_eq_some_iff] at hc
    rcases hc with hTitle | ⟨-, hWord⟩
    · exact not_isBlank_head_title hBare.1 c hTitle
    · obtain rfl : 'R' = c := Option.some.inj hWord
      decide
  · rw [registration, List.getLast?_append_of_ne_nil _ (by decide)] at hc
    obtain rfl : ')' = c := Option.some.inj hc
    decide

theorem Requested.newline_notMem_registration (h : names.Requested) (hWhole : '\n' ∉ names.resource) :
    '\n' ∉ names.registration := by
  rw [registration, h.titled_eq.1, List.mem_append, not_or]
  exact ⟨newline_notMem_title hWhole, by decide⟩

end RouteNames

namespace Registry

open Text

/-- Makes the registrations of the requests one after the other. -/
def registerAll (t : Text) (requests : List RouteNames) : Except Cause Text :=
  requests.foldlM (fun now names => (register now names).map (Addition.textOver now)) t

/-- The calls of the requests that no line of the text makes, each of them once. The call that was
first asked for last comes first. -/
def newCalls (t : Text) (requests : List RouteNames) : List Text :=
  fresh (calls t) (requests.map RouteNames.registration)

/-- The segment with a newline at its end. -/
def ended (segment : Text) : Text :=
  if segment.getLast? = some '\n' then segment else segment ++ ['\n']

/-- The line of a call below the segment of the marker. -/
def callLine (segment call : Text) : Text :=
  indent segment ++ call ++ ['\n']

theorem getLast?_ended (segment : Text) : (ended segment).getLast? = some '\n' := by
  rw [ended]
  split
  · assumption
  · exact List.getLast?_concat

theorem ended_ended (segment : Text) : ended (ended segment) = ended segment := by
  rw [ended, if_pos (getLast?_ended segment)]

theorem trim_ended (segment : Text) : (ended segment).trim = segment.trim := by
  rw [ended]
  split
  · rfl
  · exact trim_append_blank (List.all_eq_true.mp (by decide)) segment

theorem indent_ended (segment : Text) : indent (ended segment) = indent segment := by
  rw [ended]
  split
  · rfl
  · exact indent_append_singleton (by decide) segment

theorem ended_line {line : Line} (h : '\n' ∉ line) :
    ended (line ++ ['\n']) = line ++ ['\n'] ∧ ended line = line ++ ['\n'] := by
  constructor
  · rw [ended, if_pos List.getLast?_concat]
  · rw [ended, if_neg fun hLast => h (List.mem_of_getLast? hLast)]

theorem isBlank_of_mem_indent {segment : Text} {c : Char} (h : c ∈ indent segment) : isBlank c := by
  have hIndent := List.mem_takeWhile_imp h
  rw [isIndent, Bool.or_eq_true, beq_iff_eq, beq_iff_eq] at hIndent
  rcases hIndent with rfl | rfl <;> decide

theorem trim_callLine {segment call : Text} (h : call.trim = call) :
    (callLine segment call).trim = call := by
  rw [callLine, List.append_assoc, trim_blank_append fun _ => isBlank_of_mem_indent,
    trim_append_blank (List.all_eq_true.mp (by decide)), h]

/-- A call is made where a line is nothing but the call, between blanks. -/
theorem calls_iff_exists_line {t call : Text} : calls t call ↔ ∃ line ∈ t.lines, line.trim = call := by
  rw [calls, List.any_eq_true]
  simp only [beq_iff_eq]

theorem calls_iff {t call : Text} : calls t call ↔ call ∈ t.segments.map trim := by
  rw [calls_iff_exists_line, ← map_trim_lines, List.mem_map]

section Marked

variable {t : Text} {above below : List Text} {segment : Text} {names : RouteNames}

theorem Marked.ne_nil (h : Marked marker t above segment below) : segment ≠ [] := by
  rintro rfl
  exact absurd h.includes (by decide)

theorem Marked.register_eq (h : Marked marker t above segment below)
    (hNew : calls t names.registration = false) :
    register t names = .ok (.applied (above.flatten ++ ended segment ++
      callLine segment names.registration ++ below.flatten)) := by
  have hLast : (above.flatten ++ segment).getLast? = segment.getLast? :=
    List.getLast?_append_of_ne_nil _ h.ne_nil
  rw [Registry.register, h.cutBelow (by decide) (by decide), h.markerIndent]
  simp only [hNew, hLast, Bool.false_eq_true, if_false, ended, callLine]
  split <;> simp

theorem Marked.register_eq_alreadyPresent_iff (h : Marked marker t above segment below) :
    register t names = .ok .alreadyPresent ↔ calls t names.registration := by
  cases hOld : calls t names.registration with
  | true =>
      rw [Registry.register, h.cutBelow (by decide) (by decide)]
      simp [hOld]
  | false => simp [h.register_eq hOld]

theorem newline_notMem_indent (segment : Text) : '\n' ∉ indent segment := by
  intro hMem
  have hIndent := List.mem_takeWhile_imp hMem
  revert hIndent
  decide

/-- The segments of the text with one more call. -/
theorem Marked.segments_append_call (h : Marked marker t above segment below) {call : Text}
    (hCall : '\n' ∉ call) :
    Text.segments (above.flatten ++ ended segment ++ callLine segment call ++ below.flatten) =
      above ++ ended segment :: callLine segment call :: below := by
  have hBelow := segments_flatten_below h.segments
  obtain ⟨ls, line, hls, hLine, rfl, hSegment⟩ := exists_of_segments h.segments
  have hEnded : ended segment = line ++ ['\n'] := by
    rcases hSegment with rfl | ⟨rfl, -⟩
    · exact (ended_line hLine).1
    · exact (ended_line hLine).2
  have hWhole : ∀ other ∈ ls ++ [line, indent segment ++ call], '\n' ∉ other := by
    simpa [or_imp, forall_and] using ⟨hls, hLine, newline_notMem_indent segment, hCall⟩
  have hText : (ls.map (· ++ ['\n'])).flatten ++ ended segment ++ callLine segment call ++
      below.flatten = ofLines (ls ++ [line, indent segment ++ call]) ++ below.flatten := by
    rw [flatten_map_newline, hEnded, callLine, ofLines_append]
    simp
  rw [hText, segments_ofLines_append hWhole, hBelow, List.map_append, hEnded, callLine]
  simp

/-- A registration that is new comes right below the line of the marker. -/
theorem Marked.exists_register (h : Marked marker t above segment below)
    (hWhole : '\n' ∉ names.registration) (hNew : calls t names.registration = false) :
    ∃ new, register t names = .ok (.applied new) ∧
      Marked marker new above (ended segment)
        (callLine segment names.registration :: below) := by
  refine ⟨_, h.register_eq hNew, h.segments_append_call hWhole, h.first, ?_⟩
  rw [ended]
  split
  · exact h.includes
  · exact includes_iff.mpr ((includes_iff.mp h.includes).trans (List.prefix_append _ _).isInfix)

end Marked

/-- The segment of the marker, with a newline at its end if lines of calls follow. -/
def endedFor (added : List Text) (segment : Text) : Text :=
  if added = [] then segment else ended segment

/-- The text with lines for the calls below the segment of the marker. -/
def withCalls (above : List Text) (segment : Text) (below : List Text) (added : List Text) : Text :=
  above.flatten ++ endedFor added segment ++ added.flatMap (callLine segment) ++ below.flatten

/-- The segments of the text `now` are those around the segment of the marker, and below it a line
for each of the calls. -/
def Reached (above : List Text) (segment : Text) (below : List Text) (added : List Text)
    (now : Text) : Prop :=
  Marked marker now above (endedFor added segment) (added.map (callLine segment) ++ below)

theorem ended_endedFor (added : List Text) (segment : Text) :
    ended (endedFor added segment) = ended segment := by
  rw [endedFor]
  split
  · rfl
  · exact ended_ended segment

theorem trim_endedFor (added : List Text) (segment : Text) :
    (endedFor added segment).trim = segment.trim := by
  rw [endedFor]
  split
  · rfl
  · exact trim_ended segment

theorem callLine_endedFor (added : List Text) (segment call : Text) :
    callLine (endedFor added segment) call = callLine segment call := by
  rw [callLine, callLine, endedFor]
  split
  · rfl
  · rw [indent_ended]

section Reached

variable {t now : Text} {above below added : List Text} {segment : Text} {names : RouteNames}

theorem Reached.text (h : Reached above segment below added now) :
    now = withCalls above segment below added := by
  rw [← h.append, withCalls, List.flatMap_def, List.flatten_append, ← List.append_assoc]

/-- The calls of a reached text are those of the text at the start and those that were added. -/
theorem Reached.calls_iff (ht : Marked marker t above segment below)
    (h : Reached above segment below added now) (hAdded : ∀ call ∈ added, call.trim = call)
    (call : Text) : calls now call ↔ calls t call ∨ call ∈ added := by
  have hLines : (added.map (callLine segment)).map trim = added := by
    rw [List.map_map]
    exact (List.map_congr_left fun other hMem => trim_callLine (hAdded other hMem)).trans
      (List.map_id _)
  rw [Registry.calls_iff, Registry.calls_iff, h.segments, ht.segments]
  simp only [List.map_append, List.map_cons, hLines, trim_endedFor, List.mem_append,
    List.mem_cons]
  tauto

/-- One registration leads from a reached text to a reached text. -/
theorem Reached.step (h : Reached above segment below added now)
    (hWhole : '\n' ∉ names.registration) (hNew : calls now names.registration = false) :
    ∃ new, register now names = .ok (.applied new) ∧
      Reached above segment below (names.registration :: added) new := by
  obtain ⟨new, hApplied, hMarked⟩ := h.exists_register hWhole hNew
  rw [ended_endedFor, callLine_endedFor] at hMarked
  exact ⟨new, hApplied, hMarked⟩

/-- A call stands in a reached text if it stood there at the start or was asked for. -/
theorem Reached.calls_iff_of_requests {requests : List RouteNames}
    (ht : Marked marker t above segment below)
    (h : Reached above segment below (newCalls t requests) now)
    (hRequests : ∀ names ∈ requests, names.Requested) (call : Text) :
    calls now call ↔ calls t call ∨ call ∈ requests.map RouteNames.registration := by
  have hTrim : ∀ added ∈ newCalls t requests, added.trim = added := by
    intro added hMem
    obtain ⟨names, hNames, rfl⟩ := List.mem_map.mp (mem_fresh_iff.mp hMem).1
    exact (hRequests names hNames).trim_registration
  rw [h.calls_iff ht hTrim]
  exact present_or_mem_fresh_iff

end Reached

/-- No registration fails, and each of them adds what is new in its request. -/
theorem exists_reached {t : Text} {above below : List Text} {segment : Text}
    {requests : List RouteNames} (ht : Marked marker t above segment below)
    (h : ∀ names ∈ requests, names.Requested ∧ '\n' ∉ names.resource) :
    ∃ now, registerAll t requests = .ok now ∧
      Reached above segment below (newCalls t requests) now := by
  induction requests using List.reverseRecOn with
  | nil => exact ⟨t, rfl, ht⟩
  | append_singleton requests names ih =>
      have hBefore : ∀ other ∈ requests, other.Requested ∧ '\n' ∉ other.resource :=
        fun other hMem => h other (List.mem_append_left _ hMem)
      obtain ⟨now, hRun, hNow⟩ := ih hBefore
      obtain ⟨hNames, hResource⟩ := h names (by simp)
      have hCalls := hNow.calls_iff_of_requests ht (fun other hMem => (hBefore other hMem).1)
        names.registration
      rw [registerAll] at hRun ⊢
      rw [foldlM_append_singleton, hRun, newCalls, List.map_append, List.map_singleton]
      -- Which case of `fresh` applies is what the step itself looks up in the text reached so far.
      cases hOld : calls now names.registration with
      | true =>
          refine ⟨now, ?_, ?_⟩
          · change (register now names).map (Addition.textOver now) = .ok now
            rw [hNow.register_eq_alreadyPresent_iff.mpr hOld]
            rfl
          · rw [fresh_append_of_old (hCalls.mp hOld)]
            exact hNow
      | false =>
          obtain ⟨new, hApplied, hNew⟩ :=
            hNow.step (hNames.newline_notMem_registration hResource) hOld
          rw [hOld, iff_comm, iff_false_right Bool.false_ne_true, not_or, Bool.not_eq_true] at hCalls
          refine ⟨new, ?_, ?_⟩
          · change (register now names).map (Addition.textOver now) = .ok new
            rw [hApplied]
            rfl
          · rw [fresh_append_of_new hCalls.1 hCalls.2]
            exact hNew

/-- What the registrations of the requests, made one after the other, have made of `t`. -/
structure Registered (t : Text) (requests : List RouteNames) (now : Text) : Prop where
  /-- No registration failed. -/
  run : registerAll t requests = .ok now
  /-- Each new call has a line below the first line with the marker, the last one on top. -/
  text : ∃ above segment below, Marked marker t above segment below ∧
    now = withCalls above segment below (newCalls t requests)
  /-- The next registration finds its call if it was there at the start or was asked for. -/
  present : ∀ names : RouteNames,
    register now names = .ok .alreadyPresent ↔
      calls t names.registration ∨ names.registration ∈ requests.map RouteNames.registration

/-- Registrations in a text with the marker never fail and touch nothing but the lines right below
the marker. The requests made up to some point are a list of requests too, so this holds after every
step. -/
theorem exists_registered {t : Text} {requests : List RouteNames} (ht : t.includes marker)
    (h : ∀ names ∈ requests, names.Requested ∧ '\n' ∉ names.resource) :
    ∃ now, Registered t requests now := by
  obtain ⟨above, segment, below, hMarked⟩ := exists_marked (by decide) (by decide) ht
  obtain ⟨now, hRun, hNow⟩ := exists_reached hMarked h
  refine ⟨now, hRun, ⟨above, segment, below, hMarked, hNow.text⟩, fun names => ?_⟩
  rw [hNow.register_eq_alreadyPresent_iff,
    hNow.calls_iff_of_requests hMarked fun other hMem => (h other hMem).1]

/-- Two spellings of one resource and another resource, in a text whose last line is the marker. -/
theorem exists_registered_spellings :
    Text.includes "\t// solidgo:register-routes".toList marker ∧
      (∀ names ∈ ["user", "User", "order"].map fun resource =>
          RouteNames.ofRequest { resource := String.toList resource } [],
        names.Requested ∧ '\n' ∉ names.resource) ∧
      ∃ now, Registered "\t// solidgo:register-routes".toList
        (["user", "User", "order"].map fun resource =>
          RouteNames.ofRequest { resource := String.toList resource } []) now := by
  have hText : Text.includes "\t// solidgo:register-routes".toList marker := by decide
  have hNames : ∀ names ∈ ["user", "User", "order"].map fun resource =>
      RouteNames.ofRequest { resource := String.toList resource } [],
      names.Requested ∧ '\n' ∉ names.resource := by
    intro names hMem
    obtain ⟨resource, hResource, rfl⟩ := List.mem_map.mp hMem
    refine ⟨⟨_, _, rfl⟩, ?_⟩
    revert resource
    decide +kernel
  exact ⟨hText, hNames, exists_registered hText hNames⟩

end Registry

end Scaffold
