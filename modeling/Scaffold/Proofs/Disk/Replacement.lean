import Scaffold.Plan
import Scaffold.Proofs.Disk.Places

/-! The replacement of a file. The new content is made ready in a temporary file beside the old one,
in the directory that the path of the file leads to, however that path is written. A replacement that
goes through then changes the one entry that the path names, and it goes through if the name of the
file is not shorter than that of the temporary file. -/

namespace Scaffold

namespace Path

theorem intercalate_cons (first : Text) (rest : List Text) :
    ['/'].intercalate (first :: rest) = first ++ rest.flatMap ('/' :: ·) := by
  induction rest generalizing first with
  | nil => simp [List.intercalate]
  | cons second rest ih =>
      rw [List.intercalate_cons_cons, ih]
      simp

/-- The pieces of a path that does not end in a slash end in its last step. -/
theorem exists_pieces {p : Path} {above : List Text} {name : Text}
    (hSteps : p.steps = above ++ [name]) (hWants : FileTree.wantsDirectory p = false) :
    ∃ pieces, p.text.splitOn '/' = pieces ++ [name] ∧ above = pieces.filter (· ≠ []) ∧
      name ≠ [] := by
  rcases List.eq_nil_or_concat' (p.text.splitOn '/') with hNone | ⟨pieces, last, hPieces⟩
  · exact absurd hNone (List.splitOn_ne_nil _ _)
  · have hText : ['/'].intercalate (p.text.splitOn '/') = p.text := List.intercalate_splitOn '/'
    rw [hPieces] at hText
    have hLast : last ≠ [] := by
      rintro rfl
      cases pieces with
      | nil =>
          rw [steps, hPieces] at hSteps
          simp at hSteps
      | cons first rest =>
          rw [List.cons_append, intercalate_cons] at hText
          rw [FileTree.wantsDirectory, ← hText] at hWants
          simp at hWants
    rw [steps, hPieces, List.filter_append, List.filter_singleton, decide_eq_true hLast] at hSteps
    obtain ⟨hAbove, hName⟩ := List.append_inj' hSteps rfl
    obtain rfl := List.singleton_inj.mp hName
    exact ⟨pieces, hPieces, hAbove.symm, hLast⟩

/-- A name that is no absolute path is put behind the base, and a slash between them if the base needs
one. -/
theorem exists_text_join (base : Path) :
    ∃ slash, (slash = [] ∨ slash = ['/']) ∧ ∀ name : Text, name.head? ≠ some '/' →
      (base.join name).text = base.text ++ slash ++ name := by
  by_cases hNew : base.text = []
  · exact ⟨[], Or.inl rfl, fun name _ => by simp [join, hNew]⟩
  · by_cases hSlash : base.text.getLast? = some '/'
    · exact ⟨[], Or.inl rfl, fun name hName => by simp [join, hNew, hName, hSlash]⟩
    · exact ⟨['/'], Or.inr rfl, fun name hName => by simp [join, hNew, hName, hSlash]⟩

theorem moves_filter_of_idle {pieces : List Text} (h : ∀ piece ∈ pieces, isIdle piece) :
    moves (pieces.filter (· ≠ [])) = [] := by
  simp only [moves, List.filter_filter, List.filter_eq_nil_iff]
  intro piece hMem
  simpa [isIdle, or_iff_not_imp_right] using h piece hMem

/-- The parent of a path whose last piece is a name, and how the text goes on from there. -/
theorem parent?_of_pieces {p : Path} {first name : Text} {middle : List Text}
    (hPieces : p.text.splitOn '/' = first :: middle ++ [name]) (hName : isIdle name = false) :
    ∃ kept idle, middle = kept ++ idle ∧ (∀ piece ∈ idle, isIdle piece) ∧
      p.parent? = some ⟨if first = [] ∧ kept = [] then ['/'] else ['/'].intercalate (first :: kept)⟩ := by
  refine ⟨(middle.reverse.dropWhile isIdle).reverse, (middle.reverse.takeWhile isIdle).reverse,
    ?_, ?_, ?_⟩
  · rw [← List.reverse_append, List.takeWhile_append_dropWhile, List.reverse_reverse]
  · intro piece hMem
    exact List.mem_takeWhile_imp (List.mem_reverse.mp hMem)
  · rw [parent?, hPieces, List.cons_append]
    simp only [List.reverse_append, List.reverse_singleton, List.singleton_append]
    rw [List.dropWhile_cons_of_neg (by simp [hName])]
    simp only
    split_ifs <;> rfl

/-- The first pieces of a path make up a path with these pieces, if they are not those of the root
directory. -/
theorem splitOn_intercalate_of_pieces {p : Path} {first : Text} {kept rest : List Text}
    (hPieces : p.text.splitOn '/' = first :: kept ++ rest)
    (hRoot : ¬(first = [] ∧ kept = [])) :
    ['/'].intercalate (first :: kept) ≠ [] ∧
      (['/'].intercalate (first :: kept)).splitOn '/' = first :: kept := by
  have hNoSlash : ∀ piece ∈ first :: kept, '/' ∉ piece := fun piece hMem =>
    Text.notMem_of_mem_splitOn (t := p.text) (by rw [hPieces]; exact List.mem_append_left _ hMem)
  refine ⟨?_, List.splitOn_intercalate '/' hNoSlash (List.cons_ne_nil _ _)⟩
  rw [intercalate_cons]
  cases first <;> cases kept <;> simp_all

end Path

namespace FileTree

open Scaffold.Path

variable {t t' : FileTree} {p : Path} {here l : Location} {name text : Text}

/-- The directory of the temporary file is that of the file itself, up to steps that stay, and its
path is the beginning of the path of the file or one of the two shortest paths. -/
theorem stagingDirectory_spec {above : List Text} (hSteps : p.steps = above ++ [name])
    (hWants : wantsDirectory p = false) (hStay : name ≠ stay) :
    moves (stagingDirectory p).steps = moves above ∧
      (stagingDirectory p = ⟨stay⟩ ∨ stagingDirectory p = ⟨['/']⟩ ∨
        ∃ rest, p.text = (stagingDirectory p).text ++ rest ++ '/' :: name) := by
  obtain ⟨pieces, hPieces, rfl, hSome⟩ := exists_pieces hSteps hWants
  have hText : ['/'].intercalate (p.text.splitOn '/') = p.text := List.intercalate_splitOn '/'
  cases pieces with
  | nil =>
      have hParent : p.parent? = some ⟨[]⟩ := by
        rw [parent?, hPieces]
        exact if_neg hSome
      have hStaging : stagingDirectory p = ⟨stay⟩ := by
        rw [stagingDirectory, hParent]
        rfl
      rw [hStaging]
      exact ⟨by decide, Or.inl rfl⟩
  | cons first middle =>
      have hBusy : isIdle name = false := by simp [isIdle, hSome, hStay]
      obtain ⟨kept, idle, rfl, hIdle, hParent⟩ := parent?_of_pieces hPieces hBusy
      have hMoves : moves ((first :: (kept ++ idle)).filter (· ≠ [])) =
          moves ((first :: kept).filter (· ≠ [])) := by
        rw [← List.cons_append, List.filter_append, moves_append, moves_filter_of_idle hIdle,
          List.append_nil]
      rw [hMoves]
      by_cases hRoot : first = [] ∧ kept = []
      · have hStaging : stagingDirectory p = ⟨['/']⟩ := by
          rw [stagingDirectory, hParent, if_pos hRoot]
          rfl
        rw [hStaging, hRoot.1, hRoot.2]
        exact ⟨by decide, Or.inr (Or.inl rfl)⟩
      · have hFront : p.text.splitOn '/' = first :: kept ++ (idle ++ [name]) := by
          simpa using hPieces
        obtain ⟨hLong, hKept⟩ := splitOn_intercalate_of_pieces hFront hRoot
        have hStaging : stagingDirectory p = ⟨['/'].intercalate (first :: kept)⟩ := by
          rw [stagingDirectory, hParent, if_neg hRoot]
          exact if_neg hLong
        rw [hStaging]
        constructor
        · rw [steps, hKept]
        · refine Or.inr (Or.inr ⟨idle.flatMap ('/' :: ·), ?_⟩)
          rw [hPieces, List.cons_append, intercalate_cons] at hText
          rw [← hText, intercalate_cons]
          simp

/-- The temporary file has its slot beside the file, whose name is not the shorter one. -/
theorem slot_temporary (hSlot : t.slot p = .ok (here, some name))
    (hWants : wantsDirectory p = false)
    (hSize : Text.byteSize temporaryName ≤ Text.byteSize name) :
    t.slot ((stagingDirectory p).join temporaryName) = .ok (here, some temporaryName) := by
  obtain ⟨hAdmissible, above, hSteps, hWalk, hHere, hStay, -⟩ := slot_eq_iff.mp hSlot
  obtain ⟨hMoves, hText⟩ := stagingDirectory_spec hSteps hWants hStay
  rw [slot_eq_iff]
  refine ⟨?_, (stagingDirectory p).steps, ?_, ?_, hHere, by decide, by decide⟩
  · rcases hText with hStaging | hStaging | ⟨rest, hText⟩
    · rw [hStaging]
      decide
    · rw [hStaging]
      decide
    · have hRelative : temporaryName.head? ≠ some '/' := by decide
      obtain ⟨slash, hSlash, hJoin⟩ := exists_text_join (stagingDirectory p)
      have hByte : Text.byteSize ['/'] = 1 := rfl
      rw [admissible_eq_ok_iff] at hAdmissible ⊢
      rw [hText, List.append_assoc, ← List.singleton_append] at hAdmissible
      simp only [List.mem_append, not_or, Text.byteSize_append, hByte] at hAdmissible
      rw [hJoin temporaryName hRelative]
      refine ⟨?_, List.append_ne_nil_of_right_ne_nil _ (by decide), ?_⟩
      · rw [List.mem_append, List.mem_append, not_or, not_or]
        refine ⟨⟨hAdmissible.1.1, ?_⟩, by decide⟩
        rcases hSlash with rfl | rfl <;> decide
      · rw [Text.byteSize_append, Text.byteSize_append]
        have hOne : Text.byteSize slash ≤ 1 := by
          rcases hSlash with rfl | rfl <;> decide
        omega
  · rw [steps_join _ (by decide)]
    rfl
  · rw [← walk_moves hHere, hMoves, walk_moves hHere]
    exact hWalk

theorem moveTo_of_slot (hSlot : t.slot p = .ok (here, some name)) :
    t.moveTo p text =
      if nameLimit < Text.byteSize name then .error .nameTooLong
      else if wantsDirectory p then .error .notDirectory
      else if t.lookup (here ++ [name]) = some .directory then .error .isDirectory
      else .ok (t.put (here ++ [name]) (.file (.text text))) := by
  rw [moveTo, hSlot]
  simp only [bind, Except.bind, child]
  split_ifs <;> first
    | rfl
    | simp_all [throw, throwThe, MonadExceptOf.throw, pure, Except.pure]

theorem exists_of_replace {new : FileTree} (h : t.replace p text = .ok new) :
    ∃ here name, t.slot p = .ok (here, some name) ∧
      new = t.put (here ++ [name]) (.file (.text text)) := by
  rw [replace] at h
  cases hTemporary : t.slot ((stagingDirectory p).join temporaryName) with
  | error fault =>
      rw [hTemporary] at h
      cases h
  | ok place =>
      rw [hTemporary] at h
      cases hSlot : t.slot p with
      | error fault =>
          rw [moveTo, hSlot] at h
          cases h
      | ok place =>
          obtain ⟨here, _ | name⟩ := place
          · rw [moveTo, hSlot] at h
            cases h
          · rw [moveTo_of_slot hSlot] at h
            split_ifs at h
            · cases h
            · cases h
            · cases h
            · exact ⟨here, name, rfl, (Except.ok.inj h).symm⟩

/-- Whatever was there, a replacement changes nothing elsewhere than where the path leads. -/
theorem lookup_replace_of_ne {new : FileTree} {m : Location} (h : t.replace p text = .ok new)
    (hm : m ≠ p.location) : new.lookup m = t.lookup m := by
  obtain ⟨here, name, hSlot, rfl⟩ := exists_of_replace h
  rw [location_of_slot hSlot] at hm
  exact lookup_put_of_ne hm _

/-- A replacement changes the entry that the path names, once the temporary file has its slot. -/
theorem replace_of_file {content : Content} (hLocate : t.locate p = .ok l)
    (hFile : t.lookup l = some (.file content)) :
    t.replace p text =
      match t.slot ((stagingDirectory p).join temporaryName) with
      | .error fault => .error (.staging fault ((stagingDirectory p).join temporaryName))
      | .ok _ => .ok (t.put l (.file (.text text))) := by
  obtain ⟨here, name, hSlot, hWants, hName, rfl⟩ := exists_slot_of_file hLocate hFile
  rw [replace]
  cases t.slot ((stagingDirectory p).join temporaryName) with
  | error fault => rfl
  | ok place => simp [moveTo_of_slot hSlot, hWants, Nat.not_lt.mpr hName, hFile, Except.mapError]

/-- With a name that is long enough nothing stops the replacement. -/
theorem replace_of_long_name {content : Content} (hLocate : t.locate p = .ok l)
    (hFile : t.lookup l = some (.file content))
    (hLong : Text.byteSize temporaryName ≤ Text.byteSize p.fileName) :
    t.replace p text = .ok (t.put l (.file (.text text))) := by
  obtain ⟨here, name, hSlot, hWants, -⟩ := exists_slot_of_file hLocate hFile
  rw [fileName_of_slot hSlot] at hLong
  rw [replace_of_file hLocate hFile, slot_temporary hSlot hWants hLong]

end FileTree

end Scaffold
