import Scaffold.Proofs.Route.Handlers

namespace Scaffold

/-- One more member changes what is left without repetitions only if its key is new. -/
theorem eraseDupsBy_append_singleton {α β : Type} [BEq β] [LawfulBEq β] (key : α → β) (as : List α)
    (a : α) :
    (as ++ [a]).eraseDupsBy (fun x y => key x == key y) =
      if key a ∈ as.map key then as.eraseDupsBy fun x y => key x == key y
      else as.eraseDupsBy (fun x y => key x == key y) ++ [a] := by
  induction hn : as.length using Nat.strong_induction_on generalizing as with
  | _ n ih =>
      cases as with
      | nil => simp [List.eraseDupsBy_cons]
      | cons b as =>
          rw [List.cons_append, List.eraseDupsBy_cons, List.eraseDupsBy_cons, List.filter_append]
          by_cases hSame : key a = key b
          · have hGone : [a].filter (fun c => decide ((key c == key b) = false)) = [] := by
              simp [hSame]
            rw [hGone, List.append_nil, if_pos (by simp [hSame])]
          · have hStays : [a].filter (fun c => decide ((key c == key b) = false)) = [a] := by
              simp [hSame]
            -- The members that have the key of `b` are no more than those of the whole list.
            have hLess : (as.filter fun c => decide ((key c == key b) = false)).length < n := by
              have hLength := List.length_filter_le (fun c => decide ((key c == key b) = false)) as
              rw [List.length_cons] at hn
              omega
            have hMem : key a ∈ (as.filter fun c => decide ((key c == key b) = false)).map key ↔
                key a ∈ (b :: as).map key := by
              simp only [List.mem_map, List.mem_filter, List.mem_cons, decide_eq_true_eq,
                beq_eq_false_iff_ne]
              constructor
              · rintro ⟨c, ⟨hc, -⟩, hKey⟩
                exact ⟨c, Or.inr hc, hKey⟩
              · rintro ⟨c, rfl | hc, hKey⟩
                · exact absurd hKey.symm hSame
                · exact ⟨c, ⟨hc, hKey ▸ hSame⟩, hKey⟩
            rw [hStays, ih _ hLess _ rfl]
            simp only [hMem]
            split <;> rfl

namespace ControllerFile

open Text

/-- The requests that add a stub: the first one for each handler that the text does not define. -/
def firstRequests (t : Text) (requests : List RouteNames) : List RouteNames :=
  (requests.eraseDupsBy fun names first => names.handler == first.handler).filter fun names =>
    !defines t names.handler

/-- What the requests, made one after the other, make of the text. -/
structure StubsAdded (t : Text) (requests : List RouteNames) : Prop where
  /-- The text is followed by a stub for each new handler and by nothing else. -/
  text : addStubs t requests =
    t ++ (firstRequests t requests).flatMap fun names => '\n' :: NewFile.stub names
  /-- No two of the stubs have one handler. -/
  once : ((firstRequests t requests).map RouteNames.handler).Nodup
  /-- A request finds its handler if the text at the start defines it or an earlier request asked for
  it. -/
  present : ∀ done names later, requests = done ++ names :: later →
    (addStub (addStubs t done) names.handler (NewFile.stub names) = .alreadyPresent ↔
      defines t names.handler ∨ names.handler ∈ done.map RouteNames.handler)
  defined : ∀ names ∈ requests, defines (addStubs t requests) names.handler

/-- A handler is defined where a line begins with `func`, its name and a bracket, behind blanks. -/
theorem defines_iff {t handler : Text} :
    defines t handler ↔
      ∃ line ∈ t.lines, "func ".toList ++ handler ++ ['('] <+: line.trimStart := by
  rw [defines, List.any_eq_true]
  simp only [List.isPrefixOf_iff_prefix]

variable {t : Text} {requests : List RouteNames} {names : RouteNames}

theorem firstRequests_append_of_old
    (h : defines t names.handler ∨ names.handler ∈ requests.map RouteNames.handler) :
    firstRequests t (requests ++ [names]) = firstRequests t requests := by
  rw [firstRequests, eraseDupsBy_append_singleton RouteNames.handler]
  split
  · rfl
  · rename_i hNew
    rw [List.filter_append, List.filter_singleton, h.resolve_right hNew]
    exact List.append_nil _

theorem firstRequests_append_of_new (hDefines : defines t names.handler = false)
    (hNew : names.handler ∉ requests.map RouteNames.handler) :
    firstRequests t (requests ++ [names]) = firstRequests t requests ++ [names] := by
  rw [firstRequests, eraseDupsBy_append_singleton RouteNames.handler, if_neg hNew, List.filter_append,
    List.filter_singleton, hDefines]
  rfl

/-- The first requests are for the new handlers, in their order. -/
theorem map_handler_firstRequests (t : Text) (requests : List RouteNames) :
    (firstRequests t requests).map RouteNames.handler = newHandlers t requests := by
  induction requests using List.reverseRecOn with
  | nil => rfl
  | append_singleton requests names ih =>
      rw [newHandlers, List.map_append, List.map_singleton]
      by_cases hOld : defines t names.handler ∨ names.handler ∈ requests.map RouteNames.handler
      · rw [firstRequests_append_of_old hOld, fresh_append_of_old hOld, ih]
        rfl
      · obtain ⟨hDefines, hNew⟩ := not_or.mp hOld
        rw [Bool.not_eq_true] at hDefines
        rw [firstRequests_append_of_new hDefines hNew, fresh_append_of_new hDefines hNew,
          List.map_append, ih, List.reverse_cons]
        rfl

theorem withHandlers_map_handler (t : Text) (requests : List RouteNames) :
    withHandlers t (requests.map RouteNames.handler) =
      t ++ requests.flatMap fun names => '\n' :: NewFile.stub names := by
  simp only [withHandlers, List.flatMap_map, stub_eq]

/-- A run of requests leaves the text alone and adds each handler that is missing once. The names of
the handlers may begin with one another, and the last line of the text may lack its end. -/
theorem stubsAdded_addStubs (h : ∀ names ∈ requests, '\n' ∉ names.handler ∧ '(' ∉ names.handler) :
    StubsAdded t requests where
  text := by
    rw [addStubs_eq h, ← map_handler_firstRequests, withHandlers_map_handler]
  once := by
    rw [map_handler_firstRequests]
    exact List.nodup_reverse.mpr (nodup_fresh _ _)
  present done names later hCut := by
    subst hCut
    have hDone : ∀ other ∈ done, '\n' ∉ other.handler ∧ '(' ∉ other.handler := fun other hMem =>
      h other (List.mem_append_left _ hMem)
    rw [addStub_eq_alreadyPresent_iff, addStubs_eq hDone]
    exact defines_withHandlers_newHandlers hDone (h names (by simp)).2
  defined names hMem := by
    rw [addStubs_eq h]
    exact (defines_withHandlers_newHandlers h (h names hMem).2).mpr
      (Or.inr (List.mem_map_of_mem hMem))

/-- The text defines one handler behind a carriage return and begins to define another one in a last
line without an end. A handler is asked for twice whose name the first of them begins with. -/
theorem stubsAdded_addStubs_alike :
    let text := "func GetUsers(c) \x7b\x7d\r\n\tfunc GetOrder(".toList
    let requests := ["GetUser", "GetUsers", "GetOrder", "GetUser"].map fun function =>
      RouteNames.ofRequest { resource := "user".toList, function := some (String.toList function) } []
    (∀ names ∈ requests, '\n' ∉ names.handler ∧ '(' ∉ names.handler) ∧ StubsAdded text requests := by
  intro text requests
  have hNames : ∀ names ∈ requests, '\n' ∉ names.handler ∧ '(' ∉ names.handler := by
    decide +kernel
  exact ⟨hNames, stubsAdded_addStubs hNames⟩

end ControllerFile

end Scaffold
