import Mathlib.Data.List.DropRight
import Scaffold.Proofs.Disk.Below
import Scaffold.Proofs.Disk.Replacement

/-! The way up from a directory. Taking the parent cuts a path off behind one of its pieces, so the
text gets shorter and the list of ancestors is complete. A file in a directory leads back to that
directory. -/

namespace Scaffold.Path

/-- From `p` one gets to `q` through `passed`, which starts with `p` and does not hold `q`: each of
these paths is the parent of the one before. -/
inductive Climb : Path → List Path → Path → Prop
  | here (p : Path) : Climb p [] p
  | up {p q top : Path} {passed : List Path} (parent : p.parent? = some q)
      (rest : Climb q passed top) : Climb p (p :: passed) top

variable {p q top directory : Path} {first name : Text} {kept rest : List Text} {passed : List Path}

/-- What the parent keeps: nothing, the root directory, or the first pieces up to one that is not
idle. -/
theorem parent?_cases (h : p.parent? = some q) :
    ∃ first body, p.text.splitOn '/' = first :: body ∧
      ((first ≠ [] ∧ q.text = []) ∨
        ∃ kept rest, body = kept ++ rest ∧ (∃ piece ∈ rest, piece ≠ []) ∧
          (∀ last ∈ kept.getLast?, isIdle last = false) ∧
          q.text = if first = [] ∧ kept = [] then ['/'] else ['/'].intercalate (first :: kept)) := by
  obtain ⟨first, body, hPieces⟩ := List.exists_cons_of_ne_nil (List.splitOn_ne_nil '/' p.text)
  refine ⟨first, body, hPieces, ?_⟩
  rw [parent?, hPieces] at h
  simp only at h
  cases hCut : body.reverse.dropWhile isIdle with
  | nil =>
      left
      rw [hCut] at h
      simp only at h
      split_ifs at h with hFirst
      exact ⟨hFirst, congrArg text (Option.some.inj h).symm⟩
  | cons piece above =>
      right
      rw [hCut] at h
      simp only at h
      have hBusy : isIdle piece = false := by
        have hHead := List.head?_dropWhile_not isIdle body.reverse
        rw [hCut] at hHead
        simpa using hHead
      -- Behind the last piece that is not idle everything is dropped, and before it the gap is.
      have hFront : above.reverse ++ [piece] <+: body := by
        rw [← List.reverse_cons, ← hCut]
        exact List.rdropWhile_prefix isIdle _
      obtain ⟨idle, hBody⟩ := hFront
      obtain ⟨gap, hGap⟩ : (above.dropWhile isIdle).reverse <+: above.reverse := by
        rw [← List.rdropWhile_reverse]
        exact List.rdropWhile_prefix isIdle _
      rw [← hGap, List.append_assoc, List.append_assoc] at hBody
      refine ⟨_, _, hBody.symm, ⟨piece, by simp, ?_⟩, fun last hLast => ?_, ?_⟩
      · rintro rfl
        cases hBusy
      · rw [List.getLast?_reverse] at hLast
        have hHead := List.head?_dropWhile_not isIdle above
        rw [hLast] at hHead
        simpa using hHead
      · split_ifs at h with hRoot
        · rw [if_pos hRoot, ← Option.some.inj h]
        · rw [if_neg hRoot, ← Option.some.inj h]

theorem length_lt_flatMap {pieces : List Text} {piece : Text} (h : piece ∈ pieces) :
    piece.length < (pieces.flatMap ('/' :: ·)).length := by
  obtain ⟨before, after, rfl⟩ := List.append_of_mem h
  rw [List.flatMap_append, List.flatMap_cons]
  simp only [List.length_append, List.length_cons]
  omega

theorem length_parent_lt (h : p.parent? = some q) : q.text.length < p.text.length := by
  obtain ⟨first, body, hPieces, hCases⟩ := parent?_cases h
  have hText : p.text = first ++ body.flatMap ('/' :: ·) := by
    rw [← intercalate_cons, ← hPieces, List.intercalate_splitOn]
  rcases hCases with ⟨hFirst, hq⟩ | ⟨kept, rest, rfl, ⟨piece, hMem, hSome⟩, -, hq⟩
  · have hLength := List.length_pos_of_ne_nil hFirst
    rw [hq, hText, List.length_append, List.length_nil]
    omega
  · have hRest := length_lt_flatMap hMem
    have hPiece := List.length_pos_of_ne_nil hSome
    rw [hText, List.flatMap_append, List.length_append, List.length_append]
    split_ifs at hq with hRoot
    · rw [hq, List.length_singleton]
      omega
    · rw [hq, intercalate_cons, List.length_append]
      omega

theorem ancestorsWithin_eq {n m : Nat} (hn : p.text.length < n) (hm : p.text.length < m) :
    ancestorsWithin n p = ancestorsWithin m p := by
  induction n generalizing m p with
  | zero => omega
  | succ n ih =>
      obtain ⟨m, rfl⟩ := Nat.exists_eq_succ_of_ne_zero (by omega : m ≠ 0)
      rw [ancestorsWithin, ancestorsWithin]
      cases hParent : p.parent? with
      | none => rfl
      | some q =>
          have hLength := length_parent_lt hParent
          simp only
          rw [ih (m := m) (by omega) (by omega)]

theorem ancestors_of_parent (h : p.parent? = some q) : p.ancestors = p :: q.ancestors := by
  have hLength := length_parent_lt h
  rw [ancestors, ancestorsWithin, h, ancestors]
  simp only
  rw [ancestorsWithin_eq (m := q.text.length + 2) (by omega) (by omega)]

theorem ancestors_of_no_parent (h : p.parent? = none) : p.ancestors = [p] := by
  rw [ancestors, ancestorsWithin, h]

/-- The list of the ancestors is the way up. -/
theorem climb_iff : p.Climb passed top ↔ ∃ farther, p.ancestors = passed ++ top :: farther := by
  constructor
  · intro hClimb
    induction hClimb with
    | here p =>
        cases hParent : p.parent? with
        | none => exact ⟨[], ancestors_of_no_parent hParent⟩
        | some q => exact ⟨q.ancestors, ancestors_of_parent hParent⟩
    | up parent _ ih =>
        obtain ⟨farther, hFarther⟩ := ih
        exact ⟨farther, by rw [ancestors_of_parent parent, hFarther, List.cons_append]⟩
  · rintro ⟨farther, hList⟩
    induction passed generalizing p with
    | nil =>
        cases hParent : p.parent? with
        | none =>
            rw [ancestors_of_no_parent hParent] at hList
            obtain rfl := (List.cons.inj hList).1
            exact .here p
        | some q =>
            rw [ancestors_of_parent hParent] at hList
            obtain rfl := (List.cons.inj hList).1
            exact .here p
    | cons other passed ih =>
        cases hParent : p.parent? with
        | none =>
            rw [ancestors_of_no_parent hParent] at hList
            simp at hList
        | some q =>
            rw [ancestors_of_parent hParent] at hList
            obtain ⟨rfl, hRest⟩ := List.cons.inj hList
            exact .up hParent (ih hRest)

/-- A directory above another one is a parent. -/
theorem Climb.exists_parent (h : p.Climb passed top) (hNew : top ≠ p) :
    ∃ below : Path, below.parent? = some top := by
  induction h with
  | here p => exact absurd rfl hNew
  | @up p q top passed parent rest ih =>
      by_cases hTop : top = q
      · exact ⟨p, hTop ▸ parent⟩
      · exact ih hTop

/-- The components of a path that is not empty, from the pieces of its text. -/
theorem components_of_pieces (hSome : p.text ≠ []) (hPieces : p.text.splitOn '/' = first :: rest) :
    p.components = (if first = [] then ['/'] else first) :: moves (rest.filter (· ≠ [])) := by
  obtain ⟨text⟩ := p
  cases text with
  | nil => exact absurd rfl hSome
  | cons c text =>
      simp only at hPieces
      rw [components, isAbsolute, steps]
      simp only
      rw [hPieces]
      rw [List.splitOn_cons_eq_if_modifyHead] at hPieces
      by_cases hSlash : c = '/'
      · subst hSlash
        simp only [beq_self_eq_true, if_true] at hPieces
        obtain ⟨rfl, -⟩ := List.cons.inj hPieces
        simp
      · obtain ⟨start, more, hMore⟩ := List.exists_cons_of_ne_nil (List.splitOn_ne_nil '/' text)
        rw [hMore] at hPieces
        rw [if_neg (by simpa using hSlash), List.modifyHead_cons] at hPieces
        obtain ⟨rfl, rfl⟩ := List.cons.inj hPieces
        simp [hSlash]

/-- The pieces of a file in a directory. A slash at the end of the directory is not repeated. -/
theorem exists_pieces_join (hSome : directory.text ≠ []) (hSlash : '/' ∉ name) :
    ∃ first middle, (directory.join name).text.splitOn '/' = first :: middle ++ [name] ∧
      (directory.text.splitOn '/' = first :: middle ∨
        directory.text.splitOn '/' = first :: (middle ++ [[]])) := by
  have hHead : name.head? ≠ some '/' := fun hEq => hSlash (List.mem_of_head? hEq)
  have hAlone : name.splitOn '/' = [name] := Text.splitOn_of_notMem hSlash
  rw [join, if_neg (by simp [hHead, hSome])]
  split_ifs with hEnd
  · obtain ⟨before, hBefore⟩ := List.getLast?_eq_some_iff.mp hEnd
    obtain ⟨first, middle, hPieces⟩ :=
      List.exists_cons_of_ne_nil (List.splitOn_ne_nil '/' before)
    refine ⟨first, middle, ?_, Or.inr ?_⟩
    · simp only [hBefore, List.append_assoc, List.singleton_append]
      rw [List.splitOn_append_cons_self, hPieces, hAlone]
    · rw [hBefore, List.splitOn_append_cons_self, hPieces]
      rfl
  · obtain ⟨first, middle, hPieces⟩ :=
      List.exists_cons_of_ne_nil (List.splitOn_ne_nil '/' directory.text)
    refine ⟨first, middle, ?_, Or.inl hPieces⟩
    rw [List.splitOn_append_cons_self, hPieces, hAlone]

theorem parent?_join_of_empty (hEmpty : directory.text = []) (hSlash : '/' ∉ name)
    (hName : isIdle name = false) : (directory.join name).parent? = some directory := by
  obtain ⟨text⟩ := directory
  obtain rfl : text = [] := hEmpty
  have hFile : join ⟨[]⟩ name = ⟨name⟩ := if_pos (Or.inr rfl)
  rw [hFile, parent?, Text.splitOn_of_notMem hSlash]
  exact if_neg fun hNone => by simp [hNone, isIdle] at hName

/-- The parent of a file in a directory has the same components as the directory. -/
theorem exists_parent_join (directory : Path) (hSlash : '/' ∉ name) (hName : isIdle name = false) :
    ∃ root, (directory.join name).parent? = some root ∧ root.components = directory.components := by
  by_cases hSome : directory.text = []
  · exact ⟨directory, parent?_join_of_empty hSome hSlash hName, rfl⟩
  · obtain ⟨first, middle, hFile, hDirectory⟩ := exists_pieces_join hSome hSlash
    obtain ⟨kept, idle, rfl, hIdle, hParent⟩ := parent?_of_pieces hFile hName
    have hComponents : directory.components =
        (if first = [] then ['/'] else first) :: moves (kept.filter (· ≠ [])) := by
      rcases hDirectory with hPieces | hPieces
      · rw [components_of_pieces hSome hPieces, List.filter_append, moves_append,
          moves_filter_of_idle hIdle, List.append_nil]
      · have hEnd : ∀ piece ∈ idle ++ [[]], isIdle piece := by
          intro piece hMem
          rcases List.mem_append.mp hMem with hMem | hMem
          · exact hIdle piece hMem
          · rw [List.mem_singleton.mp hMem]
            rfl
        rw [components_of_pieces hSome hPieces, List.append_assoc, List.filter_append, moves_append,
          moves_filter_of_idle hEnd, List.append_nil]
    refine ⟨_, hParent, ?_⟩
    rw [hComponents]
    by_cases hRoot : first = [] ∧ kept = []
    · rw [if_pos hRoot, if_pos hRoot.1, hRoot.2]
      rfl
    · rw [List.cons_append, List.append_assoc, ← List.cons_append] at hFile
      obtain ⟨hLong, hPieces⟩ := splitOn_intercalate_of_pieces hFile hRoot
      rw [if_neg hRoot]
      exact components_of_pieces hLong hPieces

/-- The parent of a file in a parent is that parent as it is written. -/
theorem parent?_join_of_parent {below : Path} (h : below.parent? = some directory)
    (hSlash : '/' ∉ name) (hName : isIdle name = false) :
    (directory.join name).parent? = some directory := by
  obtain ⟨first, body, hPieces, hCases⟩ := parent?_cases h
  rcases hCases with ⟨-, hEmpty⟩ | ⟨kept, rest, rfl, -, hLast, hText⟩
  · exact parent?_join_of_empty hEmpty hSlash hName
  obtain ⟨text⟩ := directory
  obtain rfl : text = _ := hText
  by_cases hRoot : first = [] ∧ kept = []
  · have hFile : (join ⟨['/']⟩ name).text.splitOn '/' = [] :: [] ++ [name] := by
      have hHead : name.head? ≠ some '/' := fun hEq => hSlash (List.mem_of_head? hEq)
      have hJoin : join ⟨['/']⟩ name = ⟨'/' :: name⟩ := by
        rw [join, if_neg (by simp [hHead])]
        rfl
      rw [hJoin]
      simp [List.splitOn_cons_eq_if_modifyHead, Text.splitOn_of_notMem hSlash]
    obtain ⟨kept', idle, hNone, -, hParent⟩ := parent?_of_pieces hFile hName
    rw [if_pos hRoot, hParent, if_pos ⟨rfl, (List.append_eq_nil_iff.mp hNone.symm).1⟩]
  · rw [if_neg hRoot]
    obtain ⟨hLong, hKept⟩ := splitOn_intercalate_of_pieces hPieces hRoot
    have hSome : (Path.mk (['/'].intercalate (first :: kept))).text ≠ [] := hLong
    obtain ⟨first', middle, hFile, hDirectory⟩ := exists_pieces_join hSome hSlash
    rw [hKept] at hDirectory
    rcases hDirectory with hSame | hSame
    · obtain ⟨rfl, rfl⟩ := List.cons.inj hSame
      obtain ⟨kept', idle, rfl, hIdle, hParent⟩ := parent?_of_pieces hFile hName
      have hNone : idle = [] := by
        rcases List.eq_nil_or_concat' idle with hNone | ⟨front, last, rfl⟩
        · exact hNone
        · have hBusy := hLast last (by simp)
          rw [hIdle last (by simp)] at hBusy
          cases hBusy
      rw [hParent, hNone, List.append_nil]
      rw [hNone, List.append_nil] at hRoot
      rw [if_neg hRoot]
    · obtain ⟨-, rfl⟩ := List.cons.inj hSame
      exact absurd (hLast [] (by simp)) (by decide)

end Scaffold.Path
