import Mathlib.Data.List.Basic
import Scaffold.Text.Case

/-! Title case by position. The scan of a text carries one flag forward and looks one character ahead,
but which case a character gets can be read off the two characters before it. At a word character the
flag of the scan says just that, and behind a point or an apostrophe it also knows the next character. -/

namespace Scaffold.Text

/-- Whether a word character stands at the position. -/
def wordAt (t : Text) (i : Nat) : Bool :=
  t[i]?.any isWordChar

/-- Whether a point or an apostrophe stands at the position. -/
def joinAt (t : Text) (i : Nat) : Bool :=
  t[i]?.any fun c => c == '.' || c == '\''

/-- Whether a word before the position may go on there: its last character stands right before the
position, or is joined to it by one point or apostrophe. -/
def followsWord (t : Text) : Nat → Bool
  | 0 => false
  | 1 => t.wordAt 0
  | i + 2 => t.wordAt (i + 1) || (t.joinAt (i + 1) && t.wordAt i)

/-- What stands in the title case for the character at the position. -/
def titledAt (t : Text) (i : Nat) : Text :=
  match t[i]? with
  | none => []
  | some c =>
    if isWordChar c then
      if t.followsWord i then lowerCase c else upperCase c
    else [c]

/-- The flag of the scan before the position. -/
def inWordAt (t : Text) : Nat → Bool
  | 0 => false
  | i + 1 => t.wordAt i || (t.wordAt (i + 1) && t.followsWord (i + 1))

variable {t : Text} {i : Nat}

theorem followsWord_of_wordAt (h : t.wordAt i) : t.followsWord (i + 1) := by
  cases i with
  | zero => exact h
  | succ i => rw [followsWord, h, Bool.true_or]

/-- At a word character the flag looks back only. -/
theorem inWordAt_of_wordAt (h : t.wordAt i) : t.inWordAt i = t.followsWord i := by
  cases i with
  | zero => rfl
  | succ i =>
      rw [inWordAt, h, Bool.true_and]
      cases hBefore : t.wordAt i with
      | false => rw [Bool.false_or]
      | true => rw [Bool.true_or, followsWord_of_wordAt hBefore]

/-- Behind another character the flag is set where this character joins two word characters. -/
theorem inWordAt_succ_of_not_wordAt (h : t.wordAt i = false) :
    t.inWordAt (i + 1) = (t.inWordAt i && t.joinAt i && t.wordAt (i + 1)) := by
  rw [inWordAt, h, Bool.false_or]
  cases i with
  | zero => rw [inWordAt, followsWord, h, Bool.and_false, Bool.false_and, Bool.false_and]
  | succ i =>
      rw [inWordAt, followsWord, h, Bool.false_or, Bool.false_and, Bool.or_false, Bool.and_comm,
        Bool.and_comm (t.joinAt _)]

theorem titledAt_eq (h : i < t.length) :
    t.titledAt i =
      if isWordChar t[i] then if t.followsWord i then lowerCase t[i] else upperCase t[i]
      else [t[i]] := by
  rw [titledAt, List.getElem?_eq_getElem h]

/-- One step of the scan writes what belongs to its position and leaves the flag of the next one. -/
theorem titleFrom_step (h : i < t.length) :
    titleFrom (t.inWordAt i) (t.drop i) =
      t.titledAt i ++ titleFrom (t.inWordAt (i + 1)) (t.drop (i + 1)) := by
  have hNext : (t.drop (i + 1)).head?.any isWordChar = t.wordAt (i + 1) := by
    rw [List.head?_drop, wordAt]
  have hWord : t.wordAt i = isWordChar t[i] := by
    rw [wordAt, List.getElem?_eq_getElem h, Option.any_some]
  have hJoin : t.joinAt i = (t[i] == '.' || t[i] == '\'') := by
    rw [joinAt, List.getElem?_eq_getElem h, Option.any_some]
  rw [List.drop_eq_getElem_cons h, titleFrom, titledAt_eq h, hNext]
  by_cases hChar : isWordChar t[i]
  · have hFlag : t.inWordAt (i + 1) = true := by rw [inWordAt, hWord, hChar, Bool.true_or]
    rw [if_pos hChar, if_pos hChar, inWordAt_of_wordAt (hWord.trans hChar), hFlag]
  · have hOther : t.wordAt i = false := hWord.trans (Bool.eq_false_iff.mpr hChar)
    rw [if_neg hChar, if_neg hChar, inWordAt_succ_of_not_wordAt hOther, hJoin, List.singleton_append]

theorem titleFrom_drop (t : Text) (i : Nat) :
    titleFrom (t.inWordAt i) (t.drop i) =
      (List.range' i (t.length - i)).flatMap t.titledAt := by
  -- The induction is on how much of the text is left, so the position goes up.
  induction hLeft : t.length - i generalizing i with
  | zero => rw [List.drop_eq_nil_of_le (Nat.le_of_sub_eq_zero hLeft), titleFrom, List.range'_zero,
      List.flatMap_nil]
  | succ left ih =>
      rw [titleFrom_step (by omega), ih (i + 1) (by omega), List.range'_succ, List.flatMap_cons]

/-- A character that neither belongs to a word nor joins two of them cuts the scan in two. -/
theorem titleFrom_append_cons {x : Char} (hWord : isWordChar x = false) (hPoint : x ≠ '.')
    (hApostrophe : x ≠ '\'') (inWord : Bool) (s rest : Text) :
    titleFrom inWord (s ++ x :: rest) = titleFrom inWord s ++ x :: titleFrom false rest := by
  induction s generalizing inWord with
  | nil =>
      have hJoin : (x == '.' || x == '\'') = false := by simp [hPoint, hApostrophe]
      rw [List.nil_append, titleFrom, List.nil_append, titleFrom,
        if_neg (Bool.eq_false_iff.mp hWord), hJoin, Bool.and_false, Bool.false_and]
  | cons c s ih =>
      have hNext : (s ++ x :: rest).head?.any isWordChar = s.head?.any isWordChar := by
        cases s with
        | nil => exact hWord
        | cons d s => rfl
      rw [List.cons_append, titleFrom, titleFrom, hNext, ih, ih]
      split
      · rw [List.append_assoc]
      · rw [List.cons_append]

/-- The title case has each character as the two characters before it demand, and what stands before
and behind a character that ends every word has a title case of its own. -/
theorem title_eq_flatMap_titledAt (t : Text) :
    t.title = (List.range t.length).flatMap t.titledAt ∧
      ∀ (s : Text) (x : Char) (rest : Text), t = s ++ x :: rest → isWordChar x = false →
        x ≠ '.' → x ≠ '\'' → t.title = s.title ++ x :: rest.title := by
  constructor
  · rw [List.range_eq_range']
    exact titleFrom_drop t 0
  · rintro s x rest rfl hWord hPoint hApostrophe
    exact titleFrom_append_cons hWord hPoint hApostrophe false s rest

/-- Neither the two points nor the hyphen join words, and two characters come out as more than one. -/
theorem title_eq_flatMap_titledAt_hyphen :
    let s : Text := "ßeta o'NEIL a..b".toList
    let rest : Text := "ŉ.x".toList
    let t : Text := s ++ '-' :: rest
    t.title = "SSeta O'neil A..B-ʼN.x".toList ∧
      t.title = (List.range t.length).flatMap t.titledAt ∧
      isWordChar '-' = false ∧ '-' ≠ '.' ∧ '-' ≠ '\'' ∧ t.title = s.title ++ '-' :: rest.title := by
  intro s rest t
  have hWord : isWordChar '-' = false := by decide +kernel
  obtain ⟨hWhole, hParts⟩ := title_eq_flatMap_titledAt t
  exact ⟨by decide +kernel, hWhole, hWord, by decide, by decide,
    hParts s '-' rest rfl hWord (by decide) (by decide)⟩

end Scaffold.Text
