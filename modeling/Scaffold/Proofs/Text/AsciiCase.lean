import Mathlib.Data.List.Basic
import Scaffold.Text.Blank
import Scaffold.Text.Case

/-! The case of ASCII texts. Here each mapping takes one character to one, and none of them moves a
character into a word or out of one. So title case loses nothing of a text but its case, and the case of
a text has no influence on its title case: two texts agree in lower case exactly if they agree in title
case. Beyond ASCII this fails, for instance at the sharp s, whose upper case is that of two letters. -/

namespace Scaffold

/-- What the case mappings do to one character, if they take it to one. -/
structure OneToOne (c : Char) : Prop where
  lowerCase : lowerCase c = [c.toLower]
  upperCase : upperCase c = [c.toUpper]
  toLower_toLower : c.toLower.toLower = c.toLower
  toLower_toUpper : c.toUpper.toLower = c.toLower
  toUpper_toLower : c.toLower.toUpper = c.toUpper
  isWordChar_toLower : isWordChar c.toLower = isWordChar c
  toLower_of_not_isWordChar : isWordChar c = false → c.toLower = c

/-- The ASCII characters are mapped one to one. All of them are tried. -/
theorem oneToOne_of_ascii {c : Char} (hc : c.toNat < 128) : OneToOne c ∧ c.toLower.toNat < 128 := by
  have hAll : ∀ n < 128, let c := Char.ofNat n
      lowerCase c = [c.toLower] ∧ upperCase c = [c.toUpper] ∧ c.toLower.toLower = c.toLower ∧
        c.toUpper.toLower = c.toLower ∧ c.toLower.toUpper = c.toUpper ∧
        isWordChar c.toLower = isWordChar c ∧ (isWordChar c = false → c.toLower = c) ∧
        c.toLower.toNat < 128 := by
    decide +kernel
  have hChar := hAll c.toNat hc
  rw [Char.ofNat_toNat] at hChar
  obtain ⟨hLower, hUpper, hLowerLower, hUpperLower, hLowerUpper, hWord, hOther, hAscii⟩ := hChar
  exact ⟨⟨hLower, hUpper, hLowerLower, hUpperLower, hLowerUpper, hWord, hOther⟩, hAscii⟩

namespace Text

/-- Every character of the text is an ASCII one. -/
def IsAscii (t : Text) : Prop :=
  ∀ c ∈ t, c.toNat < 128

instance (t : Text) : Decidable t.IsAscii :=
  List.decidableBAll (fun c : Char => c.toNat < 128) t

variable {s t : Text}

theorem lower_of_ascii (h : t.IsAscii) : t.lower = t.map Char.toLower := by
  rw [lower]
  generalize ([] : Text) = before
  induction t generalizing before with
  | nil => rfl
  | cons c rest ih =>
      obtain ⟨hc, hRest⟩ := List.forall_mem_cons.mp h
      have hSigma : c ≠ 'Σ' := fun hEq => absurd (hEq ▸ hc) (by decide)
      rw [lowerAfter, if_neg hSigma, (oneToOne_of_ascii hc).1.lowerCase, ih hRest, List.map_cons,
        List.singleton_append]

/-- Title case keeps the lower case of the text. -/
theorem map_toLower_titleFrom (h : t.IsAscii) (inWord : Bool) :
    (titleFrom inWord t).map Char.toLower = t.map Char.toLower := by
  induction t generalizing inWord with
  | nil => rfl
  | cons c rest ih =>
      obtain ⟨hc, hRest⟩ := List.forall_mem_cons.mp h
      obtain ⟨hChar, -⟩ := oneToOne_of_ascii hc
      rw [titleFrom]
      split
      · rw [List.map_append, ih hRest, List.map_cons, hChar.lowerCase, hChar.upperCase]
        cases inWord with
        | false => simp [hChar.toLower_toUpper]
        | true => simp [hChar.toLower_toLower]
      · rw [List.map_cons, ih hRest, List.map_cons]

/-- The title case of the text is that of its lower case. -/
theorem titleFrom_map_toLower (h : t.IsAscii) (inWord : Bool) :
    titleFrom inWord (t.map Char.toLower) = titleFrom inWord t := by
  induction t generalizing inWord with
  | nil => rfl
  | cons c rest ih =>
      obtain ⟨hc, hRest⟩ := List.forall_mem_cons.mp h
      obtain ⟨hChar, hLower⟩ := oneToOne_of_ascii hc
      obtain ⟨hAgain, -⟩ := oneToOne_of_ascii hLower
      rw [List.map_cons, titleFrom, titleFrom, hChar.isWordChar_toLower]
      by_cases hWord : isWordChar c
      · rw [if_pos hWord, if_pos hWord, ih hRest, hAgain.lowerCase, hChar.lowerCase,
          hAgain.upperCase, hChar.upperCase, hChar.toLower_toLower, hChar.toUpper_toLower]
      · have hNext : (rest.map Char.toLower).head?.any isWordChar = rest.head?.any isWordChar := by
          cases rest with
          | nil => rfl
          | cons d rest =>
              exact (oneToOne_of_ascii (hRest d (List.mem_cons_self ..))).1.isWordChar_toLower
        rw [if_neg hWord, if_neg hWord, hNext, ih hRest,
          hChar.toLower_of_not_isWordChar (Bool.eq_false_iff.mpr hWord)]

/-- Two ASCII texts agree in title case exactly if they agree in lower case. -/
theorem title_eq_title_iff (hs : s.IsAscii) (ht : t.IsAscii) :
    s.title = t.title ↔ s.lower = t.lower := by
  rw [lower_of_ascii hs, lower_of_ascii ht]
  constructor
  · intro h
    rw [← map_toLower_titleFrom hs false, ← map_toLower_titleFrom ht false]
    exact congrArg (List.map Char.toLower) h
  · intro h
    rw [title, title, ← titleFrom_map_toLower hs, ← titleFrom_map_toLower ht, h]

theorem isAscii_trim (h : t.IsAscii) : t.trim.IsAscii := by
  intro c hc
  rw [trim, trimEnd, List.mem_reverse] at hc
  have hStart := List.mem_reverse.mp (List.dropWhile_subset _ hc)
  exact h c (List.dropWhile_subset _ hStart)

end Text

end Scaffold
