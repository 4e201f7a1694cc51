import Scaffold.Program
import Scaffold.Proofs.Disk.OnDisk
import Scaffold.Proofs.Steps

/-! What the search for the settings and for the module does to its surroundings: it looks, it reads and
it writes to the log. So it keeps to every relation that lines of the log keep to, and it leaves the
disk and the standard output as they are. -/

namespace Scaffold

variable {R : World → World → Prop} [IsPreorder World R]

namespace Settings

theorem keeps_readLayer (p : Path) : (readLayer p).Keeps R := by
  refine Job.keeps_bind (Job.keeps_require _ (Request.keeps_read p)) fun text => ?_
  split
  · exact Job.keeps_pure _
  · exact Job.keeps_throw _

theorem keeps_search (directories : List Path) : (search directories).Keeps R := by
  induction directories with
  | nil => exact Plan.keeps_pure none
  | cons directory above ih =>
      refine Plan.keeps_bind (Files.keeps_isFile _) fun found => ?_
      split
      · exact Plan.keeps_pure _
      · refine Plan.keeps_bind (Files.keeps_kind _) fun marker => ?_
        split
        · exact Plan.keeps_pure none
        · exact ih

theorem keeps_userLayer (hLog : ∀ origin severity text, (Plan.log origin severity text).Keeps R)
    (p : Path) : (userLayer p).Keeps R := by
  refine Job.keeps_bind (Job.keeps_lift (Files.keeps_present p)) fun found => ?_
  split
  · exact Job.keeps_bind (Job.keeps_lift (hLog _ _ _)) fun _ => keeps_readLayer p
  · exact Job.keeps_pure _

theorem keeps_choose (start : Path) (named : Option Path) : (choose start named).Keeps R := by
  cases named with
  | none => exact Job.keeps_lift (keeps_search _)
  | some named =>
      refine Job.keeps_bind (Job.keeps_lift (Files.keeps_isFile _)) fun found => ?_
      cases found with
      | true => exact Job.keeps_pure _
      | false => exact Job.keeps_throw_bind _ _

end Settings

namespace Project

theorem keeps_resolve (hLog : ∀ origin severity text, (Plan.log origin severity text).Keeps R)
    (start : Path) (named : Option Path) (user : Layer) : (resolve start named user).Keeps R := by
  refine Job.keeps_bind (Settings.keeps_choose start named) fun chosen => ?_
  cases chosen
  case' none => refine Job.keeps_bind (Job.keeps_pure (start, Layer.empty)) fun _ => ?_
  case' some p =>
    refine Job.keeps_bind (Job.keeps_lift (hLog _ _ _)) fun _ => ?_
    refine Job.keeps_bind (Settings.keeps_readLayer p) fun own => ?_
    refine Job.keeps_bind (Job.keeps_pure (p.parent?.getD start, own)) fun _ => ?_
  -- Wherever the layout comes from, it is checked in the same way.
  all_goals
    dsimp only
    split
    · exact Job.keeps_bind (Job.keeps_within _ (Job.keeps_throw _)) fun _ => Job.keeps_pure _
    · exact Job.keeps_pure _

theorem keeps_load (hLog : ∀ origin severity text, (Plan.log origin severity text).Keeps R)
    (userSettings start : Path) (named : Option Path) : (load userSettings start named).Keeps R :=
  Job.keeps_bind (Settings.keeps_userLayer hLog _) fun user => keeps_resolve hLog start named user

theorem keeps_moduleRoot (p : Path) : (moduleRoot p).Keeps R := by
  refine Job.keeps_bind (Job.keeps_lift (Files.keeps_isFile p)) fun found => ?_
  cases found with
  | true =>
      refine Job.keeps_bind (Job.keeps_tryCatch (Files.keeps_readText p) fun _ => ?_) fun text => ?_
      · exact Job.keeps_throw _
      · split
        · exact Job.keeps_pure _
        · exact Job.keeps_throw _
  | false => exact Job.keeps_throw_bind _ _

end Project

/-- The disk is the same, and nothing was added to the standard output. -/
structure Untouched (w w' : World) : Prop where
  disk : w'.disk = w.disk
  output : w'.output = w.output

instance : IsPreorder World Untouched where
  refl _ := ⟨rfl, rfl⟩
  trans _ _ _ h h' := ⟨h'.disk.trans h.disk, h'.output.trans h.output⟩

/-- A message that is no result is not printed on the standard output. -/
theorem Request.untouched_tell {message : Message} (h : message.onOutput = "") :
    (tell message).Keeps Untouched := by
  intro w
  refine ⟨rfl, ?_⟩
  rw [answer, World.output, World.output, List.map_append, String.join_append, List.map_singleton, h]
  simp

theorem Plan.untouched_log (origin : Origin) (severity : Severity) (text : String) :
    (log origin severity text).Keeps Untouched := by
  have hLog : (Message.log origin severity text).onOutput = "" := rfl
  exact Request.untouched_tell hLog

theorem Plan.untouched_complain (text : String) : (complain text).Keeps Untouched := by
  have hComplaint : (Message.complaint text).onOutput = "" := rfl
  exact Request.untouched_tell hComplaint

namespace Job

variable {α β : Type} {job : Job α}

theorem onDisk_of_untouched (h : job.Keeps Untouched) (t : FileTree) :
    job.onDisk t = ((job.onDisk t).1, t) := by
  have hDisk := (h ⟨t, []⟩).disk
  rw [(run_eq_onDisk job ⟨t, []⟩).2] at hDisk
  exact Prod.ext rfl hDisk

/-- What comes of two jobs of which the first one only looks. -/
theorem toOption_onDisk_bind (h : job.Keeps Untouched) (f : α → Job β) (t : FileTree) :
    ((job >>= f).onDisk t).1.toOption =
      (job.onDisk t).1.toOption.bind fun a => ((f a).onDisk t).1.toOption := by
  rw [onDisk_bind, onDisk_of_untouched h]
  cases (job.onDisk t).1 <;> rfl

end Job

end Scaffold
