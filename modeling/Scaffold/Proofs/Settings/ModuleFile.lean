import Scaffold.Proofs.Disk.Reading
import Scaffold.Settings.Project

namespace Scaffold

/-- The module that the file at the path names, if it is a text file with a module directive. -/
def FileTree.moduleAt? (t : FileTree) (p : Path) : Option Text :=
  (t.textAt? p).bind fun text => text.lines.findSome? Project.moduleOfLine?

open FileTree

variable {t : FileTree} {p : Path} {root : Text}

namespace Project

theorem moduleOfLine?_eq_none_iff {line : Line} :
    moduleOfLine? line = none ↔
      ∀ name rest, line.words ≠ "module".toList :: name :: rest := by
  rw [moduleOfLine?]
  split
  · rename_i directive name rest hWords
    simp only [hWords, List.cons.injEq, ne_eq, ite_eq_right_iff, reduceCtorEq, imp_false]
    constructor
    · rintro hOther _ _ ⟨hEq, -⟩
      exact hOther hEq
    · rintro hOther rfl
      exact hOther name rest ⟨rfl, rfl, rfl⟩
  · rename_i hShort
    simp only [true_iff]
    intro name rest hWords
    exact hShort _ _ _ hWords

theorem onDisk_moduleRoot (p : Path) (t : FileTree) :
    ((moduleRoot p).onDisk t).1.toOption = t.moduleAt? p ∧ ((moduleRoot p).onDisk t).2 = t := by
  rw [moduleRoot, moduleAt?, Job.onDisk_bind, Job.onDisk_lift, Files.onDisk_isFile]
  cases hFile : t.isFile p with
  | false =>
      rw [textAt?_eq_none_of_not_isFile hFile]
      exact ⟨rfl, rfl⟩
  | true =>
      simp only [if_true, Job.onDisk_bind, Job.onDisk_tryCatch, Files.onDisk_readText]
      cases hRead : t.read p with
      | error fault =>
          rw [textAt?_eq_none_of_read hRead]
          exact ⟨rfl, rfl⟩
      | ok text =>
          rw [read_eq_ok_iff.mp hRead]
          simp only [Except.mapError, Option.bind_some]
          cases text.lines.findSome? moduleOfLine? <;> exact ⟨rfl, rfl⟩

theorem onDisk_moduleRoot_eq_ok_iff :
    ((moduleRoot p).onDisk t).1 = .ok root ↔ t.moduleAt? p = some root := by
  rw [← (onDisk_moduleRoot p t).1]
  cases ((moduleRoot p).onDisk t).1 <;> simp [Except.toOption]

end Project

/-- There is no text file at the path in which a line starts with the module directive and a name. -/
def FileTree.Moduleless (t : FileTree) (p : Path) : Prop :=
  ∀ text, t.textAt? p = some text → ∀ line ∈ text.lines,
    ∀ name rest, line.words ≠ "module".toList :: name :: rest

theorem FileTree.moduleAt?_eq_none_iff : t.moduleAt? p = none ↔ t.Moduleless p := by
  rw [moduleAt?, Moduleless]
  cases t.textAt? p with
  | none => simp
  | some text =>
      simp only [Option.bind_some, List.findSome?_eq_none_iff, Project.moduleOfLine?_eq_none_iff,
        Option.some.injEq, forall_eq']

theorem Project.exists_moduleRoot_error_iff {w : World} :
    (∃ failure, ((moduleRoot p).run.run w).1 = .error failure) ↔ w.disk.Moduleless p := by
  rw [(Job.run_eq_onDisk _ w).1, ← moduleAt?_eq_none_iff, ← (onDisk_moduleRoot p w.disk).1]
  cases ((moduleRoot p).onDisk w.disk).1 <;> simp [Except.toOption]

end Scaffold
