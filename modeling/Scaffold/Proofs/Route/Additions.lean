import Scaffold.Proofs.Runs
import Scaffold.Proofs.Route.SingleBlock

/-! Bindings that are added one after the other to a file with one block. No addition fails, and what
is left depends on the text at the start and on the set of statements that were asked for, not on
their order and not on how often each of them was asked for. -/

namespace Scaffold.RouteFile

open Text Surroundings

/-- Adds the bindings of the requests one after the other. -/
def addBindings (t : Text) (requests : List RouteNames) : Except Cause Text :=
  requests.foldlM (fun now names => (addBinding now names).map (Addition.textOver now)) t

/-- The statements of the requests that are not yet bindings of the text, each of them once. -/
def newBindings (t : Text) (requests : List RouteNames) : List Line :=
  (requests.map RouteNames.binding).dedup.filter fun statement =>
    !(ofText t).bindings.contains statement

/-- The text with the new bindings in their places. Without a new one it is left alone. -/
def grownBy (t : Text) (added : List Line) : Text :=
  if added = [] then t else render ((ofText t).withBindings added)

/-- The text `now` is what the bindings `added` make of `t`. The zones are compared after the
indentation of the closing line is gone, which the first addition takes away. -/
structure Reached (t : Text) (added : List Line) (now : Text) : Prop where
  single : SingleBlock now
  zones : (ofText now).withBindings [] = (ofText t).withBindings added
  text : now = grownBy t added

theorem mem_newBindings_iff {t : Text} {requests : List RouteNames} {statement : Line} :
    statement ∈ newBindings t requests ↔
      statement ∈ requests.map RouteNames.binding ∧ statement ∉ (ofText t).bindings := by
  rw [newBindings, List.mem_filter, List.mem_dedup]
  simp

theorem nodup_newBindings (t : Text) (requests : List RouteNames) :
    (newBindings t requests).Nodup :=
  (List.nodup_dedup _).filter _

/-- Only the set of the statements asked for matters for what is new. -/
theorem newBindings_perm {t : Text} {requests others : List RouteNames}
    (h : ∀ statement, statement ∈ others.map RouteNames.binding ↔
      statement ∈ requests.map RouteNames.binding) :
    (newBindings t others).Perm (newBindings t requests) := by
  refine (List.perm_ext_iff_of_nodup (nodup_newBindings t others)
    (nodup_newBindings t requests)).mpr fun statement => ?_
  rw [mem_newBindings_iff, mem_newBindings_iff, h]

theorem newBindings_perm_fresh (t : Text) (requests : List RouteNames) :
    (newBindings t requests).Perm
      (fresh (ofText t).bindings.contains (requests.map RouteNames.binding)) :=
  (List.reverse_perm _).symm.dedup.filter _

theorem newBindings_append_of_mem {t : Text} {requests : List RouteNames} {names : RouteNames}
    (h : names.binding ∈ (ofText t).bindings ∨
      names.binding ∈ requests.map RouteNames.binding) :
    (newBindings t (requests ++ [names])).Perm (newBindings t requests) := by
  have hFresh := newBindings_perm_fresh t (requests ++ [names])
  rw [← List.contains_iff_mem] at h
  rw [List.map_append, List.map_singleton, fresh_append_of_old h] at hFresh
  exact hFresh.trans (newBindings_perm_fresh t requests).symm

theorem newBindings_append_of_notMem {t : Text} {requests : List RouteNames} {names : RouteNames}
    (hText : names.binding ∉ (ofText t).bindings)
    (hRequests : names.binding ∉ requests.map RouteNames.binding) :
    (newBindings t (requests ++ [names])).Perm (newBindings t requests ++ [names.binding]) := by
  have hFresh := newBindings_perm_fresh t (requests ++ [names])
  rw [← List.contains_iff_mem, Bool.not_eq_true] at hText
  rw [List.map_append, List.map_singleton, fresh_append_of_new hText hRequests] at hFresh
  exact (hFresh.trans ((newBindings_perm_fresh t requests).symm.cons _)).trans
    (List.perm_append_singleton _ _).symm

theorem grownBy_eq_of_perm (t : Text) {as bs : List Line} (h : as.Perm bs) :
    grownBy t as = grownBy t bs := by
  have hNil : as = [] ↔ bs = [] := by
    constructor
    · rintro rfl
      exact h.nil_eq.symm
    · rintro rfl
      exact h.eq_nil
  rw [grownBy, grownBy, withBindings_eq_of_perm _ h]
  simp only [hNil]

section Reached

variable {t now : Text} {added : List Line}

theorem reached_self (ht : SingleBlock t) : Reached t [] t :=
  ⟨ht, rfl, rfl⟩

theorem Reached.of_perm (h : Reached t added now) {others : List Line}
    (hPerm : added.Perm others) : Reached t others now := by
  refine ⟨h.single, ?_, ?_⟩
  · rw [h.zones, withBindings_eq_of_perm _ hPerm]
  · rw [h.text, grownBy_eq_of_perm t hPerm]

theorem Reached.preamble (h : Reached t added now) :
    (ofText now).preamble = (ofText t).preamble := by
  have hSame : ((ofText now).withBindings []).preamble =
      ((ofText t).withBindings added).preamble := by
    rw [h.zones]
  exact hSame

theorem Reached.bindings (h : Reached t added now) :
    (ofText now).bindings = sortLines ((ofText t).bindings ++ added) := by
  have hSame : sortLines ((ofText now).bindings ++ []) = sortLines ((ofText t).bindings ++ added) :=
    congrArg RouteFile.bindings h.zones
  rw [List.append_nil, sortLines_eq_self (regular_ofText now).sorted] at hSame
  exact hSame

/-- One addition from a reached text leads to a reached text. -/
theorem Reached.step (h : Reached t added now) {names : RouteNames} (hNames : names.Admissible)
    (hNew : names.binding ∉ (ofText now).bindings) :
    ∃ new, addBinding now names = .ok (.applied new) ∧
      Reached t (added ++ [names.binding]) new := by
  obtain ⟨new, hApplied, hSingle, hZones, hText⟩ := addBinding_singleBlock h.single hNames hNew
  have hAll : ofText new = (ofText t).withBindings (added ++ [names.binding]) := by
    rw [hZones, ← withBindings_withBindings, ← h.zones, withBindings_withBindings,
      List.nil_append]
  refine ⟨new, hApplied, hSingle, ?_, ?_⟩
  · rw [hAll, withBindings_withBindings, List.append_nil]
  · rw [grownBy, if_neg (by simp), ← hAll, hText]

end Reached

theorem Reached.mem_bindings_iff {t now : Text} {requests : List RouteNames}
    (h : Reached t (newBindings t requests) now) {statement : Line} :
    statement ∈ (ofText now).bindings ↔
      statement ∈ (ofText t).bindings ∨ statement ∈ requests.map RouteNames.binding := by
  rw [h.bindings, mem_sortLines, List.mem_append, mem_newBindings_iff]
  by_cases hOld : statement ∈ (ofText t).bindings
  · simp [hOld]
  · simp [hOld]

/-- No addition fails, and each of them adds what is new in its request. -/
theorem exists_reached {t : Text} {requests : List RouteNames} (ht : SingleBlock t)
    (h : ∀ names ∈ requests, names.Admissible) :
    ∃ now, addBindings t requests = .ok now ∧ Reached t (newBindings t requests) now := by
  induction requests using List.reverseRecOn with
  | nil => exact ⟨t, rfl, reached_self ht⟩
  | append_singleton requests names ih =>
      obtain ⟨now, hRun, hNow⟩ := ih fun other hMem => h other (List.mem_append_left _ hMem)
      have hNames : names.Admissible := h names (by simp)
      rw [addBindings] at hRun ⊢
      rw [foldlM_append_singleton, hRun]
      by_cases hMem : names.binding ∈ (ofText now).bindings
      · have hPresent : addBinding now names = .ok .alreadyPresent :=
          addBinding_eq_alreadyPresent_iff.mpr ((binds_eq_true_iff hNames.requested).mpr hMem)
        have hPerm := newBindings_append_of_mem (hNow.mem_bindings_iff.mp hMem)
        refine ⟨now, ?_, hNow.of_perm hPerm.symm⟩
        change (addBinding now names).map (Addition.textOver now) = .ok now
        rw [hPresent]
        rfl
      · obtain ⟨new, hApplied, hNew⟩ := hNow.step hNames hMem
        rw [hNow.mem_bindings_iff, not_or] at hMem
        have hPerm := newBindings_append_of_notMem hMem.1 hMem.2
        refine ⟨new, ?_, hNew.of_perm hPerm.symm⟩
        change (addBinding now names).map (Addition.textOver now) = .ok new
        rw [hApplied]
        rfl

/-- What the bindings of the requests, added one after the other, have made of `t`. -/
structure Gathered (t : Text) (requests : List RouteNames) (now : Text) : Prop where
  /-- No addition failed. -/
  run : addBindings t requests = .ok now
  single : SingleBlock now
  preamble : (ofText now).preamble = (ofText t).preamble
  /-- Each new statement was added once. -/
  bindings : (ofText now).bindings = sortLines ((ofText t).bindings ++ newBindings t requests)
  /-- The next addition finds its statement if it was there at the start or was asked for. -/
  present : ∀ names : RouteNames, names.Admissible →
    (addBinding now names = .ok .alreadyPresent ↔
      names.binding ∈ (ofText t).bindings ∨ names.binding ∈ requests.map RouteNames.binding)
  /-- Other requests for the same statements, in any order, lead to the same text. -/
  anyOrder : ∀ others : List RouteNames, (∀ names ∈ others, names.Admissible) →
    (∀ statement, statement ∈ others.map RouteNames.binding ↔
      statement ∈ requests.map RouteNames.binding) →
    addBindings t others = .ok now

/-- Adding bindings to a file with one block never fails, keeps all but the bindings, and collects
the bindings whatever their order. The requests made up to some point are a list of requests too, so
this holds after every step. -/
theorem exists_gathered {t : Text} {requests : List RouteNames} (ht : SingleBlock t)
    (h : ∀ names ∈ requests, names.Admissible) : ∃ now, Gathered t requests now := by
  obtain ⟨now, hRun, hNow⟩ := exists_reached ht h
  refine ⟨now, hRun, hNow.single, hNow.preamble, hNow.bindings, fun names hNames => ?_,
    fun others hOthers hSame => ?_⟩
  · rw [addBinding_eq_alreadyPresent_iff, binds_eq_true_iff hNames.requested,
      hNow.mem_bindings_iff]
  · obtain ⟨other, hOtherRun, hOther⟩ := exists_reached ht hOthers
    rw [hOtherRun, hOther.text, hNow.text, grownBy_eq_of_perm t (newBindings_perm hSame)]

/-- The same route asked for twice, in a file that has a binding, an indented closing line and a line
below it. -/
theorem exists_gathered_twice :
    SingleBlock "f \x7b\n\tg.Group(\n\taRoutes.b\n  \x7d\n// end\n".toList ∧
      (∀ names ∈ List.replicate 2 (RouteNames.ofRequest { resource := "u".toList } []),
        names.Admissible) ∧
      ∃ now, Gathered "f \x7b\n\tg.Group(\n\taRoutes.b\n  \x7d\n// end\n".toList
        (List.replicate 2 (RouteNames.ofRequest { resource := "u".toList } [])) now := by
  have hBlock : SingleBlock "f \x7b\n\tg.Group(\n\taRoutes.b\n  \x7d\n// end\n".toList := by
    refine ⟨["f \x7b".toList, "\tg.Group(".toList, "\taRoutes.b".toList], "  \x7d".toList,
      ["// end".toList], by decide, ?_⟩
    exact
      { noReturn := by decide
        closes := by decide
        others := by decide
        once := by decide
        behind := by decide
        armed := ⟨"f \x7b".toList, "\tg.Group(".toList, by decide, by decide, by decide⟩ }
  have hNames : ∀ names ∈
      List.replicate 2 (RouteNames.ofRequest { resource := "u".toList } []),
      names.Admissible := by
    intro names hMem
    rw [List.eq_of_mem_replicate hMem]
    exact ⟨⟨_, _, rfl⟩, by decide +kernel, by decide +kernel, by decide +kernel⟩
  exact ⟨hBlock, hNames, exists_gathered hBlock hNames⟩

end Scaffold.RouteFile
