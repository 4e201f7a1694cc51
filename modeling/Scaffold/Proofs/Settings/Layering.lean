import Mathlib.Logic.Function.Basic
import Scaffold.Proofs.Disk.Climbing
import Scaffold.Proofs.Settings.Loading

/-! The layers of the settings. The settings file of a project is the nearest one from the start
upwards, unless a directory before it holds a repository, and what it says comes first. What the user
says comes next and the standard places come last, for each key on its own. -/

namespace Scaffold

/-- A place is that of the project where it sets one, else that of the user, else the standard one. -/
structure Layered (own user : Layer) (layout : Layout) : Prop where
  ofOwn : ∀ {key place}, own key = some place → layout key = place
  ofUser : ∀ {key place}, own key = none → user key = some place → layout key = place
  ofNone : ∀ {key}, own key = none → user key = none → layout key = Layout.standard key

namespace FileTree

/-- From the start upwards the directory is the first one with a settings file, and `passed` are
the directories before it. -/
structure Nearest (t : FileTree) (start : Path) (passed : List Path) (directory : Path) : Prop where
  climb : start.Climb passed directory
  holds : t.isFile (directory.join Settings.fileName)
  first : ∀ other ∈ passed, t.isFile (other.join Settings.fileName) = false

/-- The directory is the nearest one with a settings file, and none before it holds a repository. -/
def IsAnchor (t : FileTree) (start directory : Path) : Prop :=
  ∃ passed, t.Nearest start passed directory ∧
    ∀ other ∈ passed, t.isDirectory (other.join Settings.repositoryName) = false

/-- What the project itself says, and its root. -/
inductive Anchored (t : FileTree) (start : Path) : Layer → Path → Prop
  /-- The settings file says it, and the root is the directory of that file. If that is the start
  itself, the root may be written without the slashes and idle steps at its end. -/
  | found {directory root : Path} {own : Layer} (anchor : t.IsAnchor start directory)
      (accepted : t.layerAt? (directory.join Settings.fileName) = some own)
      (same : root.components = directory.components)
      (above : directory ≠ start → root = directory) : Anchored t start own root
  | absent (none : ∀ directory, ¬ t.IsAnchor start directory) : Anchored t start Layer.empty start

variable {t : FileTree} {start p directory root : Path} {own : Layer}

theorem settingsIn_eq_some_iff {directories : List Path} :
    t.settingsIn directories = some p ↔
      ∃ passed directory farther, directories = passed ++ directory :: farther ∧
        p = directory.join Settings.fileName ∧ t.isFile (directory.join Settings.fileName) ∧
        ∀ other ∈ passed, t.isFile (other.join Settings.fileName) = false ∧
          t.isDirectory (other.join Settings.repositoryName) = false := by
  induction directories with
  | nil => simp [settingsIn]
  | cons nearest farther ih =>
      rw [settingsIn]
      constructor
      · intro h
        split_ifs at h with hFile hRepository
        · exact ⟨[], nearest, farther, rfl, (Option.some.inj h).symm, hFile, by simp⟩
        · obtain ⟨passed, directory, rest, hList, hp, hHolds, hPassed⟩ := ih.mp h
          refine ⟨nearest :: passed, directory, rest, by rw [hList, List.cons_append], hp, hHolds, ?_⟩
          intro other hMem
          rcases List.mem_cons.mp hMem with rfl | hMem
          · exact ⟨Bool.eq_false_iff.mpr hFile, Bool.eq_false_iff.mpr hRepository⟩
          · exact hPassed other hMem
      · rintro ⟨passed, directory, rest, hList, hp, hHolds, hPassed⟩
        cases passed with
        | nil =>
            obtain ⟨rfl, -⟩ := List.cons.inj hList
            rw [if_pos hHolds, hp]
        | cons other passed =>
            obtain ⟨rfl, hFarther⟩ := List.cons.inj hList
            obtain ⟨hFile, hRepository⟩ := hPassed nearest (List.mem_cons_self ..)
            rw [hFile, hRepository, if_neg Bool.false_ne_true, if_neg Bool.false_ne_true]
            exact ih.mpr ⟨passed, directory, rest, hFarther, hp, hHolds, fun other hMem =>
              hPassed other (List.mem_cons_of_mem _ hMem)⟩

/-- The search finds the settings file of the anchor. -/
theorem settingsIn_ancestors_iff :
    t.settingsIn start.ancestors = some p ↔
      ∃ directory, t.IsAnchor start directory ∧ p = directory.join Settings.fileName := by
  rw [settingsIn_eq_some_iff]
  constructor
  · rintro ⟨passed, directory, farther, hList, hp, hHolds, hPassed⟩
    refine ⟨directory, ⟨passed, ?_, fun other hMem => (hPassed other hMem).2⟩, hp⟩
    exact
      { climb := Path.climb_iff.mpr ⟨farther, hList⟩
        holds := hHolds
        first := fun other hMem => (hPassed other hMem).1 }
  · rintro ⟨directory, ⟨passed, hNearest, hPassed⟩, hp⟩
    obtain ⟨farther, hList⟩ := Path.climb_iff.mp hNearest.climb
    exact ⟨passed, directory, farther, hList, hp, hNearest.holds, fun other hMem =>
      ⟨hNearest.first other hMem, hPassed other hMem⟩⟩

/-- Settings beside a repository are found, and those above one are not. -/
example :
    let settings : Location × Entry := (["p".toList, Settings.fileName], .file (.text []))
    let beside : Location × Entry := (["p".toList, Settings.repositoryName], .directory)
    let below : Location × Entry := (["p".toList, "a".toList, Settings.repositoryName], .directory)
    let directories : List (Location × Entry) :=
      [(["p".toList, "a".toList], .directory), (["p".toList], .directory)]
    settingsIn ⟨settings :: beside :: directories⟩ (Path.ofString "/p/a").ancestors =
        some (Path.ofString "/p/.solidgo.toml") ∧
      settingsIn ⟨settings :: below :: directories⟩ (Path.ofString "/p/a").ancestors = none := by
  decide +kernel

/-- The root of the project with the settings file that is chosen. -/
def rootOf (start : Path) (chosen : Option Path) : Path :=
  (chosen.map fun p => p.parent?.getD start).getD start

/-- The settings file of a directory leads back to that directory. -/
theorem rootOf_join (h : t.IsAnchor start directory) :
    (rootOf start (some (directory.join Settings.fileName))).components = directory.components ∧
      (directory ≠ start →
        rootOf start (some (directory.join Settings.fileName)) = directory) := by
  have hSlash : '/' ∉ Settings.fileName := by decide
  have hBusy : Path.isIdle Settings.fileName = false := by decide
  rw [rootOf, Option.map_some, Option.getD_some]
  constructor
  · obtain ⟨root, hParent, hSame⟩ := Path.exists_parent_join directory hSlash hBusy
    rw [hParent]
    exact hSame
  · intro hAbove
    obtain ⟨passed, hNearest, -⟩ := h
    obtain ⟨below, hBelow⟩ := hNearest.climb.exists_parent hAbove
    rw [Path.parent?_join_of_parent hBelow hSlash hBusy]
    rfl

theorem anchored_rootOf (h : t.ownLayer? (t.settingsIn start.ancestors) = some own) :
    t.Anchored start own (rootOf start (t.settingsIn start.ancestors)) := by
  cases hChosen : t.settingsIn start.ancestors with
  | none =>
      rw [hChosen] at h
      obtain rfl := Option.some.inj h
      refine .absent fun directory hAnchor => ?_
      rw [settingsIn_ancestors_iff.mpr ⟨directory, hAnchor, rfl⟩] at hChosen
      cases hChosen
  | some p =>
      rw [hChosen] at h
      obtain ⟨directory, hAnchor, rfl⟩ := settingsIn_ancestors_iff.mp hChosen
      obtain ⟨hSame, hAbove⟩ := rootOf_join hAnchor
      exact .found hAnchor h hSame hAbove

theorem Anchored.ownLayer?_eq (h : t.Anchored start own root) :
    t.ownLayer? (t.settingsIn start.ancestors) = some own := by
  cases h with
  | found anchor accepted same above =>
      rw [settingsIn_ancestors_iff.mpr ⟨_, anchor, rfl⟩]
      exact accepted
  | absent none =>
      have hChosen : t.settingsIn start.ancestors = Option.none := by
        refine Option.eq_none_iff_forall_ne_some.mpr fun p hp => ?_
        obtain ⟨directory, hAnchor, -⟩ := settingsIn_ancestors_iff.mp hp
        exact none directory hAnchor
      rw [hChosen]
      rfl

end FileTree

open FileTree

variable {own user : Layer} {layout : Layout} {start : Path} {project : Project} {w : World}

theorem layered_toLayout (own user : Layer) : Layered own user (own.orElse user).toLayout where
  ofOwn hOwn := by rw [Layer.toLayout, Layer.orElse, hOwn]; rfl
  ofUser hOwn hUser := by rw [Layer.toLayout, Layer.orElse, hOwn, hUser]; rfl
  ofNone hOwn hUser := by rw [Layer.toLayout, Layer.orElse, hOwn, hUser]; rfl

/-- The layers leave no choice. -/
theorem Layered.eq_toLayout (h : Layered own user layout) :
    layout = (own.orElse user).toLayout := by
  have hLayers := layered_toLayout own user
  funext key
  cases hOwn : own key with
  | some place => rw [h.ofOwn hOwn, hLayers.ofOwn hOwn]
  | none =>
      cases hUser : user key with
      | some place => rw [h.ofUser hOwn hUser, hLayers.ofUser hOwn hUser]
      | none => rw [h.ofNone hOwn hUser, hLayers.ofNone hOwn hUser]

/-- What the user says of a key has no bearing where the project sets it. -/
theorem toLayout_update {key : LayoutKey} {place : Text} (hOwn : own key = some place)
    (value : Option Text) :
    (own.orElse (Function.update user key value)).toLayout = (own.orElse user).toLayout := by
  funext other
  by_cases hKey : other = key
  · subst hKey
    rw [(layered_toLayout own _).ofOwn hOwn, (layered_toLayout own _).ofOwn hOwn]
  · simp only [Layer.toLayout, Layer.orElse, Function.update_of_ne hKey]

namespace Project

theorem resolve_eq_ok_iff :
    ((resolve start none user).run.run w).1 = .ok project ↔
      ∃ own, w.disk.ownLayer? (w.disk.settingsIn start.ancestors) = some own ∧
        (∀ key, ((own.orElse user).toLayout key).NonBlank) ∧
        project = { root := rootOf start (w.disk.settingsIn start.ancestors)
                    layout := (own.orElse user).toLayout } := by
  have hOutcome : ((resolve start none user).run.run w).1 = .ok project ↔
      ((resolve start none user).onDisk w.disk).1.toOption = some project := by
    rw [(Job.run_eq_onDisk _ w).1]
    cases ((resolve start none user).onDisk w.disk).1 <;> simp [Except.toOption]
  rw [hOutcome, onDisk_resolve, chosen?, Option.bind_some, Option.bind_eq_some_iff]
  refine exists_congr fun own => and_congr_right fun _ => ?_
  have hPlaces : (own.orElse user).toLayout.blankKey? = none ↔
      ∀ key, ((own.orElse user).toLayout key).NonBlank := by
    simp only [Layout.blankKey?_eq_none_iff, Text.trim_ne_nil_iff]
  rw [projectOf?, ← hPlaces]
  split_ifs with hNone
  · simp only [hNone, true_and, Option.some.injEq]
    exact eq_comm
  · simp [hNone]

/-- The project around the start can be resolved. -/
def Resolves (start : Path) (user : Layer) (w : World) : Prop :=
  ∃ project, ((resolve start none user).run.run w).1 = .ok project

/-- A resolution succeeds exactly if the project has settings of its own, or does without them, and
all places have something in them. -/
theorem resolves_iff :
    Resolves start user w ↔ ∃ own root layout, w.disk.Anchored start own root ∧
      Layered own user layout ∧ ∀ key, (layout key).NonBlank := by
  constructor
  · rintro ⟨project, hProject⟩
    obtain ⟨own, hOwn, hPlaces, -⟩ := resolve_eq_ok_iff.mp hProject
    exact ⟨own, _, _, anchored_rootOf hOwn, layered_toLayout own user, hPlaces⟩
  · rintro ⟨own, root, layout, hAnchored, hLayered, hPlaces⟩
    obtain rfl := hLayered.eq_toLayout
    exact ⟨_, resolve_eq_ok_iff.mpr ⟨own, hAnchored.ownLayer?_eq, hPlaces, rfl⟩⟩

/-- A blank place in the settings of the user does no harm exactly if the project has another one. -/
theorem resolves_iff_of_blank {key : LayoutKey} {place : Text} (hUser : user key = some place)
    (hBlank : ¬ place.NonBlank) :
    Resolves start user w ↔
      (∃ own root other, w.disk.Anchored start own root ∧ own key = some other ∧ other.NonBlank) ∧
        Resolves start (Function.update user key none) w := by
  constructor
  · intro hResolves
    obtain ⟨own, root, layout, hAnchored, hLayered, hPlaces⟩ := resolves_iff.mp hResolves
    cases hOwn : own key with
    | none =>
        refine absurd (hPlaces key) ?_
        rwa [hLayered.ofUser hOwn hUser]
    | some other =>
        have hOther := hPlaces key
        rw [hLayered.ofOwn hOwn] at hOther
        refine ⟨⟨own, root, other, hAnchored, hOwn, hOther⟩, resolves_iff.mpr ?_⟩
        refine ⟨own, root, _, hAnchored, layered_toLayout own _, ?_⟩
        rw [toLayout_update hOwn, ← hLayered.eq_toLayout]
        exact hPlaces
  · rintro ⟨⟨own, root, other, hAnchored, hOwn, -⟩, hResolves⟩
    obtain ⟨own', root', layout, hAnchored', hLayered, hPlaces⟩ := resolves_iff.mp hResolves
    obtain rfl : own = own' :=
      Option.some.inj (hAnchored.ownLayer?_eq.symm.trans hAnchored'.ownLayer?_eq)
    refine resolves_iff.mpr ⟨own, root, _, hAnchored, layered_toLayout own user, ?_⟩
    rw [← toLayout_update hOwn none, ← hLayered.eq_toLayout]
    exact hPlaces

/-- The settings of a project are those of the nearest settings file, which fixes the root, over those
of the user over the standard ones, key by key. The resolution fails only for a settings file that
cannot be used and for blank places, of which the user's do no harm if the project has another one. -/
theorem resolve_layered (start : Path) (user : Layer) (w : World) :
    (∀ project, ((resolve start none user).run.run w).1 = .ok project →
      ∃ own, w.disk.Anchored start own project.root ∧ Layered own user project.layout) ∧
    (Resolves start user w ↔ ∃ own root layout, w.disk.Anchored start own root ∧
      Layered own user layout ∧ ∀ key, (layout key).NonBlank) ∧
    ∀ key place, user key = some place → ¬ place.NonBlank →
      (Resolves start user w ↔
        (∃ own root other, w.disk.Anchored start own root ∧ own key = some other ∧
          other.NonBlank) ∧
        Resolves start (Function.update user key none) w) := by
  refine ⟨fun project hProject => ?_, resolves_iff, fun key place => resolves_iff_of_blank⟩
  obtain ⟨own, hOwn, -, rfl⟩ := resolve_eq_ok_iff.mp hProject
  exact ⟨own, anchored_rootOf hOwn, layered_toLayout own user⟩

/-- A blank place of the user, below a settings file that sets another one. -/
theorem resolve_layered_blank_user :
    let start := Path.ofString "/p/a"
    let user : Layer := Function.update Layer.empty .routesDir (some " ".toList)
    let settings := "[layout]\nroutes_dir = \"r\"\n".toList
    let w : World :=
      { disk := ⟨[(["p".toList, Settings.fileName], .file (.text settings)),
          (["p".toList, Settings.repositoryName], .directory),
          (["p".toList, "a".toList], .directory), (["p".toList], .directory)]⟩
        messages := [] }
    user .routesDir = some " ".toList ∧ ¬ Text.NonBlank " ".toList ∧ Resolves start user w := by
  intro start user settings w
  have hBlank : ¬ Text.NonBlank " ".toList := by decide
  have hLayer : (w.disk.layerAt? ((Path.ofString "/p").join Settings.fileName)).isSome := by
    decide +kernel
  obtain ⟨own, hOwn⟩ := Option.isSome_iff_exists.mp hLayer
  have hPlace : own .routesDir = some "r".toList := by
    have hRead : (w.disk.layerAt? ((Path.ofString "/p").join Settings.fileName)).bind
        (fun layer => layer .routesDir) = some "r".toList := by
      decide +kernel
    rwa [hOwn] at hRead
  have hAnchor : w.disk.IsAnchor start (Path.ofString "/p") := by
    refine ⟨[start], ⟨.up (by decide +kernel) (.here _), by decide +kernel, ?_⟩, ?_⟩ <;>
      decide +kernel
  have hAnchored : w.disk.Anchored start own (Path.ofString "/p") :=
    .found hAnchor hOwn rfl fun _ => rfl
  let others : Layer := Function.update user .routesDir none
  have hSome : ((resolve start none others).run.run w).1.toOption.isSome := by decide +kernel
  have hOthers : Resolves start others w := by
    cases hEnd : ((resolve start none others).run.run w).1 with
    | ok project => exact ⟨project, hEnd⟩
    | error failure =>
        rw [hEnd] at hSome
        cases hSome
  refine ⟨rfl, hBlank, ((resolve_layered start user w).2.2 .routesDir _ rfl hBlank).mpr ?_⟩
  exact ⟨⟨own, _, _, hAnchored, hPlace, by decide⟩, hOthers⟩

end Project

end Scaffold
