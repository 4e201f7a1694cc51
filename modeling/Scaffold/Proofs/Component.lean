import Scaffold.Component
import Scaffold.Proofs.Disk.Siblings

/-! What is left when a component cannot be created. Both files are looked at before either is
written, so a component of which one file is there stays as it is. The second file can still be
stopped after the first one is written: by a name or path that only the longer extension makes too
long, or by a file that comes into sight when the directory is made. -/

namespace Scaffold.Component

open FileTree Scaffold.Path

/-- How the creation of a component without force can end, and the tree that it leaves. -/
inductive Creates (t : FileTree) (sourceFile styleFile : Path) (text : Text) (noStyle : Bool) :
    Except Failure Unit → FileTree → Prop where
  /-- One of the wanted files is there. -/
  | refused {failure : Failure}
      (present : t.at? sourceFile ≠ none ∨ noStyle = false ∧ t.at? styleFile ≠ none) :
      Creates t sourceFile styleFile text noStyle (.error failure) t
  /-- The source file cannot be written. -/
  | stopped {failure : Failure} {grown : FileTree} (first : t.writeNew? sourceFile text = none)
      (grows : Grows t grown) : Creates t sourceFile styleFile text noStyle (.error failure) grown
  | alone {new : FileTree} (noStyle_eq : noStyle = true)
      (first : t.writeNew? sourceFile text = some new) :
      Creates t sourceFile styleFile text noStyle (.ok ()) new
  | both {new last : FileTree} (first : t.writeNew? sourceFile text = some new)
      (second : new.writeNew? styleFile style = some last) :
      Creates t sourceFile styleFile text noStyle (.ok ()) last
  /-- The source file is written, but the style file cannot be. -/
  | half {failure : Failure} {new grown : FileTree} (noStyle_eq : noStyle = false)
      (absent : t.at? styleFile = none) (first : t.writeNew? sourceFile text = some new)
      (second : new.writeNew? styleFile style = none) (grows : Grows new grown) :
      Creates t sourceFile styleFile text noStyle (.error failure) grown

theorem onDisk_firstPresent (ps : List Path) (t : FileTree) :
    (firstPresent ps).onDisk t = (ps.find? fun p => (t.kind? p).isSome, t) := by
  induction ps with
  | nil => rfl
  | cons p rest ih =>
      rw [firstPresent, Plan.onDisk_bind, Files.onDisk_present, List.find?_cons]
      cases t.kind? p with
      | none => exact ih
      | some kind => rfl

theorem at?_ne_none_of_find? {ps : List Path} {p : Path} {t : FileTree}
    (h : ps.find? (fun p => (t.kind? p).isSome) = some p) : p ∈ ps ∧ t.at? p ≠ none := by
  refine ⟨List.mem_of_find?_eq_some h, fun hNone => ?_⟩
  have hSome := List.find?_some h
  rw [kind?_eq_none_iff.mpr hNone] at hSome
  cases hSome

theorem at?_eq_none_of_find? {ps : List Path} {p : Path} {t : FileTree}
    (h : ps.find? (fun p => (t.kind? p).isSome) = none) (hMem : p ∈ ps) : t.at? p = none := by
  have hNone := List.find?_eq_none.mp h p hMem
  rwa [Option.not_isSome_iff_eq_none, kind?_eq_none_iff] at hNone

/-- The source file of a component. -/
def sourceFile (project : Project) (path name : Text) : Path :=
  (directory project path name).join (name ++ ".tsx".toList)

/-- The style file of a component. -/
def styleFile (project : Project) (path name : Text) : Path :=
  (directory project path name).join (name ++ ".module.scss".toList)

theorem isExtension_source : IsExtension ".tsx".toList := ⟨by decide, by decide⟩

theorem isExtension_style : IsExtension ".module.scss".toList := ⟨by decide, by decide⟩

theorem sourceFile_eq_extend (project : Project) (path name : Text) :
    sourceFile project path name =
      ((directory project path name).join name).extend ".tsx".toList :=
  join_append _ _ (by decide)

theorem styleFile_eq_extend (project : Project) (path name : Text) :
    styleFile project path name =
      ((directory project path name).join name).extend ".module.scss".toList :=
  join_append _ _ (by decide)

theorem creates_onDisk (project : Project) (path name : Text) (noStyle : Bool) (t : FileTree) :
    Creates t (sourceFile project path name) (styleFile project path name) (source name) noStyle
      ((create project path name noStyle false).onDisk t).1
      ((create project path name noStyle false).onDisk t).2 := by
  simp only [create]
  rw [← sourceFile, ← styleFile]
  simp only [Job.onDisk_bind, Job.onDisk_lift, Plan.onDisk_log, Bool.false_eq_true, if_false,
    onDisk_firstPresent]
  cases hFind : (if noStyle = true then [sourceFile project path name]
      else [sourceFile project path name, styleFile project path name]).find?
        fun p => (t.kind? p).isSome with
  | some p =>
      obtain ⟨hMem, hThere⟩ := at?_ne_none_of_find? hFind
      refine Creates.refused ?_
      cases noStyle with
      | true =>
          obtain rfl := List.mem_singleton.mp hMem
          exact Or.inl hThere
      | false =>
          rcases List.mem_cons.mp hMem with rfl | hMem
          · exact Or.inl hThere
          · obtain rfl := List.mem_singleton.mp hMem
            exact Or.inr ⟨rfl, hThere⟩
  | none =>
      simp only [Job.onDisk_bind, Job.onDisk_within]
      rcases Files.onDisk_writeNew (sourceFile project path name) (source name) t with
        ⟨new, hFirst, hRun⟩ | ⟨hFirst, failure, grown, hRun, hGrows⟩
      · rw [hRun]
        cases noStyle with
        | true => exact Creates.alone rfl hFirst
        | false =>
            have hStyle : t.at? (styleFile project path name) = none :=
              at?_eq_none_of_find? hFind (List.mem_cons_of_mem _ (List.mem_singleton_self _))
            simp only [Except.mapError, Job.onDisk_lift, Plan.onDisk_say, Bool.false_eq_true, if_false,
              Job.onDisk_bind, Job.onDisk_within]
            rcases Files.onDisk_writeNew (styleFile project path name) style new with
              ⟨last, hSecond, hStyleRun⟩ | ⟨hSecond, failure, grown, hStyleRun, hGrows⟩
            · rw [hStyleRun]
              exact Creates.both hFirst hSecond
            · rw [hStyleRun]
              exact Creates.half rfl hStyle hFirst hSecond hGrows
      · rw [hRun]
        exact Creates.stopped hFirst hGrows

/-- Both files are absent and the source file can be written, but the style file cannot be then: one
has come into sight with the directory of the source file, or its path or its name is too long. -/
structure HalfDone (t : FileTree) (sourceFile styleFile : Path) (text : Text) : Prop where
  sourceAbsent : t.at? sourceFile = none
  styleAbsent : t.at? styleFile = none
  stopped : ∃ grown new, t.withParent sourceFile = some grown ∧
    grown.write sourceFile text = .ok new ∧ grown.at? sourceFile ≠ some (.file (.text text)) ∧
    (grown.at? styleFile ≠ none ∨ pathLimit < Text.byteSize styleFile.text ∨
      nameLimit < Text.byteSize styleFile.fileName)

theorem writeNew?_styleFile_eq_none_iff {project : Project} {path name : Text}
    {t grown new : FileTree} (hGrown : t.withParent (sourceFile project path name) = some grown)
    (hWrite : grown.write (sourceFile project path name) (source name) = .ok new) :
    new.writeNew? (styleFile project path name) style = none ↔
      grown.at? (styleFile project path name) ≠ none ∨
        pathLimit < Text.byteSize (styleFile project path name).text ∨
        nameLimit < Text.byteSize (styleFile project path name).fileName := by
  rw [sourceFile_eq_extend] at hGrown hWrite
  rw [styleFile_eq_extend]
  exact writeNew?_extend_eq_none_iff isExtension_source isExtension_style (by decide) (by decide)
    hGrown hWrite

section

variable {project : Project} {path name : Text} {noStyle : Bool} {t last : FileTree}

/-- The only way to fail and yet change a file is to leave the source file alone behind. -/
theorem Creates.halfDone {failure : Failure}
    (h : Creates t (sourceFile project path name) (styleFile project path name) (source name) noStyle
      (.error failure) last) (hOther : ¬ SameFiles t last) :
    noStyle = false ∧
      HalfDone t (sourceFile project path name) (styleFile project path name) (source name) := by
  cases h with
  | refused present => exact absurd (Grows.refl t).sameFiles hOther
  | stopped first grows => exact absurd grows.sameFiles hOther
  | half noStyle_eq absent first second grows =>
      obtain ⟨hAbsent, grown, hGrown, hWrite⟩ := writeNew?_eq_some_iff.mp first
      refine ⟨noStyle_eq, hAbsent, absent, grown, _, hGrown, hWrite, fun hHeld => hOther ?_,
        (writeNew?_styleFile_eq_none_iff hGrown hWrite).mp second⟩
      have hSame := (sameFiles_write_iff hWrite).mpr hHeld
      exact ((grows_of_withParent hGrown).sameFiles.trans hSame).trans grows.sameFiles

theorem Creates.of_halfDone {outcome : Except Failure Unit}
    (h : Creates t (sourceFile project path name) (styleFile project path name) (source name) false
      outcome last)
    (hHalf : HalfDone t (sourceFile project path name) (styleFile project path name) (source name)) :
    (∃ failure, outcome = .error failure) ∧ ¬ SameFiles t last := by
  obtain ⟨grown, new, hGrown, hWrite, hHeld, hStopped⟩ := hHalf.stopped
  have hFirst := writeNew?_eq_some_iff.mpr ⟨hHalf.sourceAbsent, grown, hGrown, hWrite⟩
  have hSecond := (writeNew?_styleFile_eq_none_iff hGrown hWrite).mpr hStopped
  cases h with
  | refused present =>
      rcases present with hSource | ⟨-, hStyle⟩
      · exact absurd hHalf.sourceAbsent hSource
      · exact absurd hHalf.styleAbsent hStyle
  | stopped first grows =>
      rw [hFirst] at first
      cases first
  | alone noStyle_eq first => cases noStyle_eq
  | both first second =>
      rw [hFirst] at first
      obtain rfl := Option.some.inj first
      rw [hSecond] at second
      cases second
  | half noStyle_eq absent first second grows =>
      rw [hFirst] at first
      obtain rfl := Option.some.inj first
      refine ⟨⟨_, rfl⟩, fun hSame => hHeld ((sameFiles_write_iff hWrite).mp ?_)⟩
      exact ((grows_of_withParent hGrown).sameFiles.symm.trans hSame).trans grows.sameFiles.symm

end

/-- A failure leaves every file as it was, except where the creation stops between the two files. -/
theorem sameFiles_of_error_iff (project : Project) (path name : Text) (noStyle : Bool) (w : World) :
    ((∃ failure, ((create project path name noStyle false).run.run w).1 = .error failure) →
      SameFiles w.disk ((create project path name noStyle false).run.run w).2.disk) ↔
      ¬ (noStyle = false ∧
        HalfDone w.disk (sourceFile project path name) (styleFile project path name) (source name)) := by
  obtain ⟨hOutcome, hDisk⟩ := Job.run_eq_onDisk (create project path name noStyle false) w
  have hCreates := creates_onDisk project path name noStyle w.disk
  rw [hOutcome, hDisk]
  constructor
  · rintro hSame ⟨rfl, hHalf⟩
    obtain ⟨hError, hOther⟩ := hCreates.of_halfDone hHalf
    exact hOther (hSame hError)
  · rintro hWhole ⟨failure, hError⟩
    rw [hError] at hCreates
    by_contra hOther
    exact hWhole (hCreates.halfDone hOther)

/-- A name that fits with the shorter extension alone. The creation fails, and the source file is
left. -/
theorem sameFiles_of_error_ne :
    let project : Project := { root := Path.ofString "/p", layout := Layout.standard }
    let name := List.replicate 244 'A'
    let before : World := { disk := ⟨[(["p".toList], .directory)]⟩, messages := [] }
    let after := (create project "pages".toList name false false).run.run before
    ¬ ((∃ failure, after.1 = .error failure) → SameFiles before.disk after.2.disk) := by
  intro project name before after hClaim
  let place : Location :=
    ["p".toList, "client".toList, "src".toList, "pages".toList, name, name ++ ".tsx".toList]
  have hError : after.1.isOk = false := by decide +kernel
  have hNew : after.2.disk.lookup place = some (.file (.text (source name))) := by decide +kernel
  have hOld : before.disk.lookup place = none := by decide +kernel
  have hSame : SameFiles before.disk after.2.disk := by
    refine hClaim ?_
    cases hOutcome : after.1 with
    | error failure => exact ⟨failure, rfl⟩
    | ok _ =>
        rw [hOutcome] at hError
        cases hError
  rw [hSame] at hNew
  rw [hNew] at hOld
  cases hOld

end Scaffold.Component
