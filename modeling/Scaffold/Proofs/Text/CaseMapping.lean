import Mathlib.Data.List.Basic
import Scaffold.Text.Blank
import Scaffold.Text.Case

/-! What a case mapping keeps. A character outside a class of characters stays outside it under a
mapping whose runs and expansions never lead into the class. For blanks this is a check of the
tables, so the lower case or the title case of a text begins with a blank only if the text does, and
a text without a newline has none in title case either. -/

namespace Scaffold

theorem Ranges.exists_of_holds {ranges : Ranges} {n : Nat} (h : ranges.holds n) :
    ∃ range ∈ ranges, range.1 ≤ n ∧ n ≤ range.2 := by
  induction ranges with
  | nil => cases h
  | cons range rest ih =>
      rw [Ranges.holds] at h
      split at h
      · cases h
      · rcases Bool.or_eq_true_iff.mp h with hIn | hRest
        · exact ⟨range, List.mem_cons_self .., by omega, of_decide_eq_true hIn⟩
        · obtain ⟨other, hMem, hOther⟩ := ih hRest
          exact ⟨other, List.mem_cons_of_mem _ hMem, hOther⟩

/-- No code point of the run moves into one of the ranges. -/
def CaseRun.avoids (run : CaseRun) (ranges : Ranges) : Bool :=
  ranges.all fun range =>
    (run.last : Int) + run.shift < range.1 || (range.2 : Int) < run.first + run.shift

/-- None of the code points is in the class. -/
def avoidsCodes (codes : List Nat) (ranges : Ranges) : Bool :=
  codes.all fun code => !ranges.holds code

section Mapping

variable {ranges : Ranges} {runs : List CaseRun} {expansions : List (Nat × List Nat)}

theorem CaseRun.not_holds_of_image? {run : CaseRun} (h : run.avoids ranges)
    (hZero : ranges.holds 0 = false) {n m : Nat} (hImage : run.image? n = some m) :
    ranges.holds m = false := by
  rw [CaseRun.image?] at hImage
  split at hImage
  · rename_i hIn
    obtain rfl := Option.some.inj hImage
    apply Bool.eq_false_iff.mpr
    intro hHolds
    by_cases hPos : 0 ≤ (n : Int) + run.shift
    · obtain ⟨range, hMem, hLow, hHigh⟩ := Ranges.exists_of_holds hHolds
      have hApart := List.all_eq_true.mp h range hMem
      rw [Bool.or_eq_true, decide_eq_true_eq, decide_eq_true_eq] at hApart
      omega
    · rw [Int.toNat_of_nonpos (by omega), hZero] at hHolds
      cases hHolds
  · cases hImage

theorem CaseRun.not_holds_of_find? (h : ∀ run ∈ runs, run.avoids ranges)
    (hZero : ranges.holds 0 = false) {n m : Nat} (hFind : CaseRun.find? runs n = some m) :
    ranges.holds m = false := by
  induction runs with
  | nil => cases hFind
  | cons run rest ih =>
      rw [CaseRun.find?] at hFind
      split at hFind
      · cases hFind
      · split at hFind
        · rename_i hImage
          obtain rfl := Option.some.inj hFind
          exact CaseRun.not_holds_of_image? (h run (List.mem_cons_self ..)) hZero hImage
        · exact ih (fun other hMem => h other (List.mem_cons_of_mem _ hMem)) hFind

theorem not_holds_ofNat (hZero : ranges.holds 0 = false) {code : Nat}
    (h : ranges.holds code = false) : ranges.holds (Char.ofNat code).toNat = false := by
  by_cases hValid : code.isValidChar
  · rw [Char.ofNat, dif_pos hValid]
    exact h
  · rw [Char.ofNat, dif_neg hValid]
    exact hZero

theorem mem_of_lookup {n : Nat} {codes : List Nat} (h : expansions.lookup n = some codes) :
    (n, codes) ∈ expansions := by
  obtain ⟨before, after, rfl, -⟩ := List.lookup_eq_some_iff.mp h
  exact List.mem_append_right _ (List.mem_cons_self ..)

/-- The mapping does not lead into the class from outside. -/
theorem not_holds_of_mem_mapCase (hRuns : ∀ run ∈ runs, run.avoids ranges)
    (hExpansions : ∀ expansion ∈ expansions, avoidsCodes expansion.2 ranges)
    (hZero : ranges.holds 0 = false) {c d : Char} (hc : ranges.holds c.toNat = false)
    (hd : d ∈ mapCase runs expansions c) : ranges.holds d.toNat = false := by
  rw [mapCase] at hd
  cases hLookup : expansions.lookup c.toNat with
  | some codes =>
      rw [hLookup] at hd
      obtain ⟨code, hCode, rfl⟩ := List.mem_map.mp hd
      have hAll := hExpansions _ (mem_of_lookup hLookup)
      exact not_holds_ofNat hZero (by simpa using List.all_eq_true.mp hAll code hCode)
  | none =>
      rw [hLookup] at hd
      cases hFind : CaseRun.find? runs c.toNat with
      | some code =>
          rw [hFind] at hd
          obtain rfl := List.mem_singleton.mp hd
          exact not_holds_ofNat hZero (CaseRun.not_holds_of_find? hRuns hZero hFind)
      | none =>
          rw [hFind] at hd
          obtain rfl := List.mem_singleton.mp hd
          exact hc

theorem mapCase_ne_nil (hExpansions : ∀ expansion ∈ expansions, expansion.2 ≠ []) (c : Char) :
    mapCase runs expansions c ≠ [] := by
  rw [mapCase]
  cases hLookup : expansions.lookup c.toNat with
  | some codes => simpa using hExpansions _ (mem_of_lookup hLookup)
  | none => cases CaseRun.find? runs c.toNat <;> simp

end Mapping

theorem lowerCase_ne_nil (c : Char) : lowerCase c ≠ [] :=
  mapCase_ne_nil (by decide) c

/-- No character that is not blank becomes blank in lower case. -/
theorem not_isBlank_of_mem_lowerCase {c d : Char} (hc : isBlank c = false)
    (hd : d ∈ lowerCase c) : isBlank d = false :=
  not_holds_of_mem_mapCase (by decide +kernel) (by decide) (by decide) hc hd

theorem upperCase_ne_nil (c : Char) : upperCase c ≠ [] :=
  mapCase_ne_nil (by decide) c

theorem not_isBlank_of_mem_upperCase {c d : Char} (hc : isBlank c = false)
    (hd : d ∈ upperCase c) : isBlank d = false :=
  not_holds_of_mem_mapCase (by decide +kernel) (by decide) (by decide) hc hd

/-- The class of the newline alone. -/
def newlineRange : Ranges := [(0xA, 0xA)]

theorem holds_newlineRange_iff {c : Char} : newlineRange.holds c.toNat ↔ c = '\n' := by
  rw [← Char.toNat_inj, newlineRange]
  change _ ↔ c.toNat = 10
  simp only [Ranges.holds]
  split <;> simp <;> omega

theorem newline_notMem_mapCase {runs : List CaseRun} {expansions : List (Nat × List Nat)}
    (hRuns : ∀ run ∈ runs, run.avoids newlineRange)
    (hExpansions : ∀ expansion ∈ expansions, avoidsCodes expansion.2 newlineRange) {c : Char}
    (hc : c ≠ '\n') : '\n' ∉ mapCase runs expansions c := by
  intro hMem
  have hOutside : newlineRange.holds c.toNat = false :=
    Bool.eq_false_iff.mpr fun hHolds => hc (holds_newlineRange_iff.mp hHolds)
  have hNot := not_holds_of_mem_mapCase hRuns hExpansions (by decide) hOutside hMem
  rw [holds_newlineRange_iff.mpr rfl] at hNot
  cases hNot

theorem newline_notMem_lowerCase {c : Char} (hc : c ≠ '\n') : '\n' ∉ lowerCase c :=
  newline_notMem_mapCase (by decide +kernel) (by decide +kernel) hc

theorem newline_notMem_upperCase {c : Char} (hc : c ≠ '\n') : '\n' ∉ upperCase c :=
  newline_notMem_mapCase (by decide +kernel) (by decide +kernel) hc

namespace Text

theorem not_isBlank_head_lower {t : Text} (h : ∀ c ∈ t.head?, isBlank c = false) :
    ∀ c ∈ t.lower.head?, isBlank c = false := by
  intro d hd
  cases t with
  | nil => cases hd
  | cons c rest =>
      have hc : isBlank c = false := h c rfl
      rw [lower, lowerAfter] at hd
      by_cases hSigma : c = 'Σ'
      · rw [if_pos hSigma] at hd
        obtain rfl : (if meetsCased [] && !meetsCased rest then 'ς' else 'σ') = d :=
          Option.some.inj hd
        split <;> decide
      · rw [if_neg hSigma, List.head?_append_of_ne_nil _ (lowerCase_ne_nil c)] at hd
        exact not_isBlank_of_mem_lowerCase hc (List.mem_of_head? hd)

theorem not_isBlank_head_title {t : Text} (h : ∀ c ∈ t.head?, isBlank c = false) :
    ∀ c ∈ t.title.head?, isBlank c = false := by
  intro d hd
  cases t with
  | nil => cases hd
  | cons c rest =>
      have hc : isBlank c = false := h c rfl
      rw [title, titleFrom] at hd
      by_cases hWord : isWordChar c
      · rw [if_pos hWord, if_neg Bool.false_ne_true,
          List.head?_append_of_ne_nil _ (upperCase_ne_nil c)] at hd
        exact not_isBlank_of_mem_upperCase hc (List.mem_of_head? hd)
      · rw [if_neg hWord] at hd
        obtain rfl : c = d := Option.some.inj hd
        exact hc

theorem newline_notMem_titleFrom {t : Text} (h : '\n' ∉ t) (inWord : Bool) :
    '\n' ∉ titleFrom inWord t := by
  induction t generalizing inWord with
  | nil => exact List.not_mem_nil
  | cons c rest ih =>
      have hc : c ≠ '\n' := fun hEq => h (hEq ▸ List.mem_cons_self ..)
      have ih := ih fun hMem => h (List.mem_cons_of_mem _ hMem)
      rw [titleFrom]
      split
      · rw [List.mem_append, not_or]
        refine ⟨?_, ih true⟩
        cases inWord with
        | false => exact newline_notMem_upperCase hc
        | true => exact newline_notMem_lowerCase hc
      · rw [List.mem_cons, not_or]
        exact ⟨Ne.symm hc, ih _⟩

theorem newline_notMem_title {t : Text} (h : '\n' ∉ t) : '\n' ∉ t.title :=
  newline_notMem_titleFrom h false

end Text

end Scaffold
