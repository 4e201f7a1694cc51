import Mathlib.Data.List.Dedup
import Scaffold.Text.Basic

namespace Scaffold

/-- What was asked for and is not present, each thing once. What was first asked for last comes
first. -/
def fresh (present : Text → Bool) (asked : List Text) : List Text :=
  asked.reverse.dedup.filter fun thing => !present thing

section Fresh

variable {present : Text → Bool} {asked : List Text} {thing : Text}

theorem mem_fresh_iff : thing ∈ fresh present asked ↔ thing ∈ asked ∧ present thing = false := by
  rw [fresh, List.mem_filter, List.mem_dedup, List.mem_reverse, Bool.not_eq_true']

theorem nodup_fresh (present : Text → Bool) (asked : List Text) : (fresh present asked).Nodup :=
  (List.nodup_dedup _).filter _

theorem present_or_mem_fresh_iff :
    (present thing ∨ thing ∈ fresh present asked) ↔ present thing ∨ thing ∈ asked := by
  rw [mem_fresh_iff]
  cases present thing <;> simp

theorem fresh_append_of_old (h : present thing ∨ thing ∈ asked) :
    fresh present (asked ++ [thing]) = fresh present asked := by
  rw [fresh, List.reverse_append, List.reverse_singleton, List.singleton_append]
  by_cases hMem : thing ∈ asked.reverse
  · rw [List.dedup_cons_of_mem hMem]
    rfl
  · have hPresent : present thing := h.resolve_right (by simpa using hMem)
    rw [List.dedup_cons_of_notMem hMem, List.filter_cons_of_neg (by simp [hPresent])]
    rfl

theorem fresh_append_of_new (hPresent : present thing = false) (hAsked : thing ∉ asked) :
    fresh present (asked ++ [thing]) = thing :: fresh present asked := by
  rw [fresh, List.reverse_append, List.reverse_singleton, List.singleton_append,
    List.dedup_cons_of_notMem (by simpa using hAsked), List.filter_cons_of_pos (by simp [hPresent])]
  rfl

end Fresh

/-- A run with one more request is the run without it and then one more step. -/
theorem foldlM_append_singleton {σ ρ ε : Type} (step : σ → ρ → Except ε σ) (start : σ)
    (requests : List ρ) (request : ρ) :
    (requests ++ [request]).foldlM step start =
      (requests.foldlM step start).bind fun now => step now request := by
  rw [List.foldlM_append]
  apply bind_congr
  intro now
  rw [List.foldlM_cons]
  exact bind_pure _

end Scaffold
