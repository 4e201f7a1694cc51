import Scaffold.Proofs.Disk.Reading
import Scaffold.Proofs.Disk.Replacement

/-! The replacement of a file, one system call after the other. A temporary file is made beside the
file, gets the new content and is moved over the file. If the system refuses one of these calls, the
temporary file is taken away again. So the file is replaced or the tree is as it was, and on the way
the temporary file is all that comes in. -/

namespace Scaffold

namespace FileTree

/-- The system calls that replace a file. -/
inductive Call where
  | create
  | write
  | move
  deriving DecidableEq

/-- The tree without what stands at a location. -/
def erase (t : FileTree) (l : Location) : FileTree :=
  ⟨t.entries.filter fun entry => entry.1 ≠ l⟩

/-- The tree with a new file at the path, which is still empty. -/
def createNew (t : FileTree) (p : Path) : Except Fault FileTree := do
  match ← t.slot p with
  | (_, none) => throw .exists
  | (here, some name) =>
    if wantsDirectory p then throw .isDirectory
    match ← t.child here name with
    | some _ => throw .exists
    | none => return t.put (here ++ [name]) (.file (.text []))

/-- The tree after a text file was moved from one path to another. -/
def rename (t : FileTree) (source target : Path) : Except Fault FileTree := do
  let moved ← t.moveTo target (← t.read source)
  return if source.location = target.location then t else moved.erase source.location

/-- The tree without the file at the path. -/
def remove (t : FileTree) (p : Path) : FileTree :=
  if t.isFile p then t.erase p.location else t

/-- The tree after a call, if the call succeeds and the system does not refuse it. -/
def granted (refused : Call → Bool) (call : Call) (outcome : Except Fault FileTree) :
    Option FileTree :=
  if refused call then none else outcome.toOption

/-- The trees that the replacement of a file leads through, by way of a temporary file with the given
name. After a call that is refused or fails, the temporary file is removed and that is the end. -/
def replacement (t : FileTree) (p : Path) (name text : Text) (refused : Call → Bool) :
    List FileTree :=
  let temporary := (stagingDirectory p).join name
  match granted refused .create (t.createNew temporary) with
  | none => [t]
  | some made =>
    t :: made ::
      match granted refused .write (made.write temporary text) with
      | none => [made.remove temporary]
      | some written =>
        written ::
          match granted refused .move (written.rename temporary p) with
          | none => [written.remove temporary]
          | some moved => [moved]

/-- A name that the temporary file can get: it is as long as such names are, and nothing beside the
file has it. -/
structure TemporaryName (t : FileTree) (p : Path) (name : Text) : Prop where
  noSlash : '/' ∉ name
  noNul : '\x00' ∉ name
  size : Text.byteSize name = Text.byteSize temporaryName
  free : t.lookup ((stagingDirectory p).join name).location = none

example : TemporaryName ⟨[(["a".toList], .directory)]⟩ (Path.ofString "/a/b") ".tmpx3Bq07".toList :=
  ⟨by decide, by decide, by decide, by decide⟩

/-- Trees in which a file is replaced by a text at once: the last one has the text or is the one at
the start, and no other tree differs from that one but in what it has at the location `aside`. -/
structure Atomic (t : FileTree) (p : Path) (text : Text) (aside : Location)
    (trees : List FileTree) : Prop where
  last : trees.getLast? = some t ∨ trees.getLast? = some (t.put p.location (.file (.text text)))
  between : ∀ seen ∈ trees, seen = t.put p.location (.file (.text text)) ∨
    ∀ m, m ≠ aside → seen.lookup m = t.lookup m

variable {t u : FileTree} {p q : Path} {here l place : Location} {name text : Text}
  {content : Content}

theorem erase_put (t : FileTree) (l : Location) (e : Entry) : (t.put l e).erase l = t.erase l := by
  simp [erase, put]

theorem erase_put_of_ne {m : Location} (h : m ≠ l) (e : Entry) :
    (t.put m e).erase l = (t.erase l).put m e := by
  simp [erase, put, h]

theorem erase_of_lookup_eq_none (h : t.lookup l = none) : t.erase l = t := by
  have hl : l ≠ [] := by
    rintro rfl
    cases h
  rw [lookup, if_neg hl, List.lookup_eq_none_iff] at h
  rw [erase, List.filter_eq_self.mpr]
  intro entry hMem
  exact decide_eq_true (bne_iff_ne.mp (h entry hMem)).symm

/-- The second tree has one file more, which stands at the place and holds the content. -/
structure OneMore (t u : FileTree) (place : Location) (content : Content) : Prop where
  free : t.lookup place = none
  held : u.lookup place = some (.file content)
  others : ∀ m, m ≠ place → u.lookup m = t.lookup m
  erase : u.erase place = t

theorem OneMore.of_put (hFree : t.lookup place = none) (content : Content) :
    OneMore t (t.put place (.file content)) place content where
  free := hFree
  held := lookup_put_self_of_ne (by simp [hFree]) _
  others m hm := lookup_put_of_ne hm _
  erase := by rw [erase_put, erase_of_lookup_eq_none hFree]

theorem OneMore.put (h : OneMore t u place content) (new : Content) :
    OneMore t (u.put place (.file new)) place new where
  free := h.free
  held := lookup_put_self_of_ne (by simp [h.held]) _
  others m hm := (lookup_put_of_ne hm _).trans (h.others m hm)
  erase := by rw [erase_put, h.erase]

theorem OneMore.kept (h : OneMore t u place content) : Kept t u where
  present {m} hSome := by
    rwa [h.others m (by rintro rfl; exact hSome h.free)]
  directory {m} hDirectory := by
    rw [h.others m, hDirectory]
    rintro rfl
    rw [h.free] at hDirectory
    cases hDirectory

/-- The path has a slot for a new file, and nothing stands there. -/
structure Vacant (t : FileTree) (q : Path) (here : Location) (name : Text) : Prop where
  slot : t.slot q = .ok (here, some name)
  plain : wantsDirectory q = false
  size : Text.byteSize name ≤ nameLimit
  free : t.lookup (here ++ [name]) = none

theorem Vacant.exists_createNew (h : Vacant t q here name) :
    ∃ made, t.createNew q = .ok made ∧ OneMore t made (here ++ [name]) (.text []) := by
  refine ⟨t.put (here ++ [name]) (.file (.text [])), ?_, OneMore.of_put h.free _⟩
  rw [createNew, h.slot]
  simp [bind, Except.bind, h.plain, child, Nat.not_lt.mpr h.size, h.free, pure, Except.pure]

section OneMore

variable (h : Vacant t q here name) (hMore : OneMore t u (here ++ [name]) content)

include h hMore

theorem Vacant.exists_write (text : Text) :
    ∃ written, u.write q text = .ok written ∧
      OneMore t written (here ++ [name]) (.text text) := by
  refine ⟨u.put (here ++ [name]) (.file (.text text)), ?_, hMore.put _⟩
  rw [write_of_slot (slot_of_kept hMore.kept h.slot), h.plain, hMore.held]
  simp [Nat.not_lt.mpr h.size]

theorem Vacant.at? : u.at? q = some (.file content) := by
  rw [at?_of_slot (slot_of_kept hMore.kept h.slot) (Or.inl h.plain),
    if_neg (Nat.not_lt.mpr h.size), hMore.held]

theorem Vacant.remove : u.remove q = t := by
  have hFile : u.isFile q := by rw [isFile, h.at? hMore]
  rw [FileTree.remove, if_pos hFile, location_of_slot h.slot, hMore.erase]

end OneMore

/-- A file that is there beforehand can be replaced by the new one. -/
theorem Vacant.rename (h : Vacant t q here name) (hMore : OneMore t u (here ++ [name]) (.text text))
    (hLocate : t.locate p = .ok l) (hFile : t.lookup l = some (.file content)) :
    u.rename q p = .ok (t.put l (.file (.text text))) := by
  obtain ⟨above, last, hSlot, hWants, hLast, rfl⟩ := exists_slot_of_file hLocate hFile
  -- One of the two places is taken in `t` and the other is not.
  have hApart : above ++ [last] ≠ here ++ [name] := by
    intro hEq
    rw [hEq, h.free] at hFile
    cases hFile
  have hRead : u.read q = .ok text :=
    read_eq_ok_iff.mpr (textAt?_eq_some_iff.mpr (h.at? hMore))
  have hMove : u.moveTo p text = .ok (u.put (above ++ [last]) (.file (.text text))) := by
    rw [moveTo_of_slot (slot_of_kept hMore.kept hSlot), hWants, hMore.others _ hApart, hFile]
    simp [Nat.not_lt.mpr hLast]
  rw [FileTree.rename, hRead, location_of_slot h.slot, location_of_slot hSlot]
  simp only [bind, Except.bind, hMove, hApart.symm, if_false]
  rw [erase_put_of_ne hApart, hMore.erase]
  rfl

theorem TemporaryName.ne (h : TemporaryName t p name) {other : Text}
    (hOther : Text.byteSize other < Text.byteSize temporaryName) : name ≠ other := by
  rintro rfl
  exact absurd h.size hOther.ne

theorem TemporaryName.head?_ne (h : TemporaryName t p name) : name.head? ≠ some '/' := fun hHead =>
  h.noSlash (List.mem_of_mem_head? hHead)

theorem TemporaryName.steps (h : TemporaryName t p name) : (Path.mk name).steps = [name] := by
  rw [Path.steps, List.splitOn_eq_singleton h.noSlash, List.filter_singleton,
    decide_eq_true (h.ne (by decide))]
  rfl

theorem TemporaryName.admissible (h : TemporaryName t p name) :
    admissible ((stagingDirectory p).join name) =
      admissible ((stagingDirectory p).join temporaryName) := by
  obtain ⟨slash, -, hJoin⟩ := (stagingDirectory p).exists_text_join
  generalize (stagingDirectory p).text ++ slash = front at hJoin
  have hNul : '\x00' ∈ front ++ name ↔ '\x00' ∈ front ++ temporaryName := by
    rw [List.mem_append, List.mem_append, or_iff_left h.noNul, or_iff_left (by decide)]
  have hSome : front ++ name ≠ [] := List.append_ne_nil_of_right_ne_nil _ (h.ne (by decide))
  have hUsual : front ++ temporaryName ≠ [] := List.append_ne_nil_of_right_ne_nil _ (by decide)
  simp only [FileTree.admissible, hJoin _ h.head?_ne, hJoin temporaryName (by decide), hNul, hSome,
    hUsual, Text.byteSize_append, h.size]

/-- A name has a slot in a directory if the directory is there and the path can be used. -/
theorem slot_join (t : FileTree) (base : Path) (hHead : name.head? ≠ some '/')
    (hSteps : (Path.mk name).steps = [name]) (hMoves : ¬(name = Path.stay ∨ name = Path.up)) :
    t.slot (base.join name) =
      (admissible (base.join name)).bind fun _ => (t.walk base.steps).bind fun here =>
        if t.lookup here = some .directory then .ok (here, some name) else .error .notDirectory := by
  cases hAdmissible : admissible (base.join name) with
  | error fault =>
      rw [slot, hAdmissible]
      rfl
  | ok _ =>
      have hAll : (base.join name).steps = base.steps ++ [name] := by
        rw [Path.steps_join base hHead, hSteps]
      rw [slot_of_steps hAdmissible hAll, if_neg hMoves]
      rfl

/-- Which of the names the temporary file gets does not matter to the system. -/
theorem TemporaryName.slot (h : TemporaryName t p name) :
    t.slot ((stagingDirectory p).join name) =
      (t.slot ((stagingDirectory p).join temporaryName)).map fun place => (place.1, some name) := by
  have hMoves : ¬(name = Path.stay ∨ name = Path.up) :=
    not_or.mpr ⟨h.ne (by decide), h.ne (by decide)⟩
  rw [slot_join t _ h.head?_ne h.steps hMoves, h.admissible,
    slot_join t _ (by decide) (by decide) (by decide)]
  cases FileTree.admissible ((stagingDirectory p).join temporaryName) with
  | error fault => rfl
  | ok _ =>
      simp only [Except.bind]
      cases t.walk (stagingDirectory p).steps with
      | error fault => rfl
      | ok here =>
          simp only
          split_ifs <;> rfl

theorem TemporaryName.vacant (h : TemporaryName t p name) {other : Option Text}
    (hSlot : t.slot ((stagingDirectory p).join temporaryName) = .ok (here, other)) :
    Vacant t ((stagingDirectory p).join name) here name where
  slot := by
    rw [h.slot, hSlot]
    rfl
  plain := by
    obtain ⟨slash, -, hJoin⟩ := (stagingDirectory p).exists_text_join
    rw [wantsDirectory, hJoin _ h.head?_ne,
      List.getLast?_append_of_ne_nil _ (h.ne (by decide))]
    exact beq_eq_false_iff_ne.mpr fun hLast => h.noSlash (List.mem_of_getLast? hLast)
  size := h.size.trans_le (by decide)
  free := by
    have hSlot' : t.slot ((stagingDirectory p).join name) = .ok (here, some name) := by
      rw [h.slot, hSlot]
      rfl
    rw [← location_of_slot hSlot']
    exact h.free

/-- Without a temporary file nothing is done. -/
theorem TemporaryName.replacement_of_error (hName : TemporaryName t p name) {fault : Fault}
    (hSlot : t.slot ((stagingDirectory p).join temporaryName) = .error fault)
    (refused : Call → Bool) : t.replacement p name text refused = [t] := by
  have hCreate : t.createNew ((stagingDirectory p).join name) = .error fault := by
    rw [createNew, hName.slot, hSlot]
    rfl
  have hNone : granted refused .create (t.createNew ((stagingDirectory p).join name)) = none := by
    rw [hCreate]
    exact ite_self none
  rw [replacement, hNone]

/-- A file is replaced unless one of the calls is refused, and the tree is then as before. -/
theorem Vacant.exists_replacement (h : Vacant t ((stagingDirectory p).join name) here name)
    (hLocate : t.locate p = .ok l) (hFile : t.lookup l = some (.file content)) (text : Text) :
    ∃ made written, OneMore t made (here ++ [name]) (.text []) ∧
      OneMore t written (here ++ [name]) (.text text) ∧
      ∀ refused, t.replacement p name text refused =
        if refused .create then [t]
        else if refused .write then [t, made, t]
        else if refused .move then [t, made, written, t]
        else [t, made, written, t.put l (.file (.text text))] := by
  obtain ⟨made, hCreate, hMade⟩ := h.exists_createNew
  obtain ⟨written, hWrite, hWritten⟩ := h.exists_write hMade text
  refine ⟨made, written, hMade, hWritten, fun refused => ?_⟩
  -- What the tree holds lets none of the calls fail, so only the refusals are left to tell apart.
  rw [replacement, hCreate]
  cases hFirst : refused .create with
  | true => simp [granted, hFirst]
  | false =>
      cases hSecond : refused .write with
      | true => simp [granted, hFirst, hSecond, h.remove hMade, Except.toOption]
      | false =>
          cases hThird : refused .move with
          | true =>
              simp [granted, hFirst, hSecond, hThird, hWrite, h.remove hWritten, Except.toOption]
          | false =>
              simp [granted, hFirst, hSecond, hThird, hWrite, h.rename hWritten hLocate hFile,
                Except.toOption]

/-- Whichever calls are refused, nobody finds the file half written or the temporary file left over. -/
theorem TemporaryName.atomic_replacement (hName : TemporaryName t p name)
    (hLocate : t.locate p = .ok l) (hFile : t.lookup l = some (.file content)) (text : Text)
    (refused : Call → Bool) :
    Atomic t p text ((stagingDirectory p).join name).location
      (t.replacement p name text refused) := by
  cases hSlot : t.slot ((stagingDirectory p).join temporaryName) with
  | error fault =>
      rw [hName.replacement_of_error hSlot]
      refine ⟨Or.inl rfl, fun seen hMem => Or.inr fun m _ => ?_⟩
      rw [List.mem_singleton.mp hMem]
  | ok place =>
      have hVacant := hName.vacant hSlot
      obtain ⟨made, written, hMade, hWritten, hTrees⟩ :=
        hVacant.exists_replacement hLocate hFile text
      obtain rfl := eq_location_of_locate hLocate
      rw [hTrees, location_of_slot hVacant.slot]
      constructor
      · split_ifs <;> simp
      · intro seen hMem
        have hOneOf : seen = t ∨ seen = made ∨ seen = written ∨
            seen = t.put p.location (.file (.text text)) := by
          split_ifs at hMem <;> simp only [List.mem_cons, List.not_mem_nil, or_false] at hMem <;>
            tauto
        rcases hOneOf with rfl | rfl | rfl | rfl
        · exact Or.inr fun _ _ => rfl
        · exact Or.inr hMade.others
        · exact Or.inr hWritten.others
        · exact Or.inl rfl

/-- If no call is refused, the replacement leaves the tree that it leaves at once. -/
theorem TemporaryName.getLast?_replacement (hName : TemporaryName t p name)
    (hLocate : t.locate p = .ok l) (hFile : t.lookup l = some (.file content)) (text : Text) :
    (t.replacement p name text fun _ => false).getLast? =
      some ((t.replace p text).toOption.getD t) := by
  rw [replace_of_file hLocate hFile]
  cases hSlot : t.slot ((stagingDirectory p).join temporaryName) with
  | error fault =>
      rw [hName.replacement_of_error hSlot]
      rfl
  | ok place =>
      obtain ⟨made, written, -, -, hTrees⟩ :=
        (hName.vacant hSlot).exists_replacement hLocate hFile text
      rw [hTrees]
      rfl

end FileTree

end Scaffold
