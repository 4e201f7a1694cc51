import Scaffold.Route.Addition
import Scaffold.Proofs.Text.CaseMapping
import Scaffold.Proofs.Route.Zones

/-! The binding statement of a request and the text with the statement in it. Whatever is requested,
the statement names a route, has no outer blanks and ends with a bracket, so on a line of its own
it is a binding wherever a binding can stand, unless it names a group or begins with a brace. -/

namespace Scaffold

namespace RouteNames

open Text

/-- Names that a request leads to. -/
def Requested (names : RouteNames) : Prop :=
  ∃ request moduleRoot, ofRequest request moduleRoot = names

theorem getLast?_binding (names : RouteNames) : names.binding.getLast? = some ')' := by
  rw [binding, List.getLast?_append_of_ne_nil _ (by simp)]
  rfl

/-- The binding of a request is the lower-case resource followed by the word for a route. -/
theorem Requested.exists_binding {names : RouteNames} (h : names.Requested) :
    ∃ resource rest, Bare resource ∧
      names.binding = Text.lower resource ++ "Routes.".toList ++ rest := by
  obtain ⟨request, moduleRoot, rfl⟩ := h
  refine ⟨request.resource.trim, (ofRequest request moduleRoot).method ++ "(\"/".toList
    ++ (ofRequest request moduleRoot).urlPath ++ "\", controllers.".toList
    ++ (ofRequest request moduleRoot).handler ++ [')'], bare_trim _, ?_⟩
  have hVar : (ofRequest request moduleRoot).groupVar =
      Text.lower request.resource.trim ++ "Routes".toList := rfl
  have hWord : "Routes.".toList = "Routes".toList ++ ['.'] := rfl
  rw [binding, hVar, hWord]
  simp only [List.append_assoc, List.cons_append, List.nil_append]

theorem Requested.includes_binding {names : RouteNames} (h : names.Requested) :
    names.binding.includes "Routes.".toList := by
  obtain ⟨resource, rest, -, hBinding⟩ := h.exists_binding
  rw [includes_iff, hBinding]
  exact ⟨_, _, rfl⟩

theorem Requested.trim_binding {names : RouteNames} (h : names.Requested) :
    names.binding.trim = names.binding := by
  obtain ⟨resource, rest, hBare, hBinding⟩ := h.exists_binding
  refine trim_eq_self_iff.mpr ⟨fun c hc => ?_, fun c hc => ?_⟩
  · rw [hBinding, List.append_assoc, List.head?_append, Option.mem_def, Option.or_eq_some_iff] at hc
    rcases hc with hLower | ⟨-, hWord⟩
    · exact not_isBlank_head_lower hBare.1 c hLower
    · obtain rfl : 'R' = c := Option.some.inj hWord
      decide
  · rw [getLast?_binding] at hc
    obtain rfl : ')' = c := Option.some.inj hc
    decide

/-- Names of a request whose binding is one line and a binding wherever bindings can stand. -/
structure Admissible (names : RouteNames) : Prop where
  requested : names.Requested
  whole : '\n' ∉ names.binding
  noGroup : names.binding.includes ".Group(".toList = false
  noBrace : names.binding.head? ≠ some '\x7d'

theorem Admissible.isBindable_binding {names : RouteNames} (h : names.Admissible) :
    names.binding.isBindable := by
  have hOpens : names.binding.opens = false := by
    rw [opens, h.requested.trim_binding, getLast?_binding]
    rfl
  have hCloses : names.binding.closes = false := by
    rw [closes, h.requested.trim_binding, beq_eq_false_iff_ne.mpr h.noBrace]
    rfl
  exact isBindable_iff.mpr ⟨h.requested.includes_binding, h.noGroup, hOpens, hCloses⟩

end RouteNames

namespace RouteFile

open Text

theorem binds_eq_true_iff {f : RouteFile} {names : RouteNames} (h : names.Requested) :
    f.binds names.binding ↔ names.binding ∈ f.bindings := by
  rw [binds, h.trim_binding, List.contains_iff_mem]

theorem addBinding_eq_alreadyPresent_iff {t : Text} {names : RouteNames} :
    addBinding t names = .ok .alreadyPresent ↔ (ofText t).binds names.binding := by
  rw [addBinding]
  split
  · simp [*]
  · cases spliced t names.binding <;> simp [Except.map, *]

theorem addBinding_eq_applied_iff {t new : Text} {names : RouteNames} :
    addBinding t names = .ok (.applied new) ↔
      (ofText t).binds names.binding = false ∧
        ∃ grown, spliced t names.binding = .ok grown ∧ canonical grown = new := by
  rw [addBinding]
  split
  · simp [*]
  · cases spliced t names.binding <;> simp [Except.map, *]

/-- A list is cut in one way only at the last member with a property. -/
theorem append_cons_inj_of_last {α : Type} {p : α → Prop} {as bs cs ds : List α} {x y : α}
    (h : as ++ x :: bs = cs ++ y :: ds) (hx : p x) (hy : p y) (hbs : ∀ b ∈ bs, ¬ p b)
    (hds : ∀ d ∈ ds, ¬ p d) : as = cs ∧ x = y ∧ bs = ds := by
  rcases List.append_eq_append_iff.mp h with ⟨mid, hcs, hbs'⟩ | ⟨mid, has, hds'⟩
  · cases mid with
    | nil =>
        rw [List.append_nil] at hcs
        exact ⟨hcs.symm, List.cons.inj hbs'⟩
    | cons z mid =>
        have hMem : y ∈ bs := by
          rw [(List.cons.inj hbs').2]
          simp
        exact absurd hy (hbs y hMem)
  · cases mid with
    | nil =>
        rw [List.append_nil] at has
        obtain ⟨hxy, hRest⟩ := List.cons.inj hds'
        exact ⟨has, hxy.symm, hRest.symm⟩
    | cons z mid =>
        have hMem : x ∈ ds := by
          rw [(List.cons.inj hds').2]
          simp
        exact absurd hx (hds x hMem)

/-- A list is cut in one way only at its one member with a property. -/
theorem append_cons_inj_of_only {α : Type} {p : α → Prop} {as bs cs ds : List α} {x y : α}
    (h : as ++ x :: bs = cs ++ y :: ds) (hy : p y) (has : ∀ a ∈ as, ¬ p a)
    (hbs : ∀ b ∈ bs, ¬ p b) : as = cs ∧ x = y ∧ bs = ds := by
  rcases List.append_eq_append_iff.mp h with ⟨mid, hcs, hRest⟩ | ⟨mid, hFront, hRest⟩
  · cases mid with
    | nil => exact ⟨by simpa using hcs.symm, List.cons.inj hRest⟩
    | cons z mid => exact absurd hy (hbs y (by simp [(List.cons.inj hRest).2]))
  · cases mid with
    | nil =>
        obtain ⟨hxy, hds⟩ := List.cons.inj hRest
        exact ⟨by simpa using hFront, hxy.symm, hds.symm⟩
    | cons z mid => exact absurd hy (has y (by simp [hFront, (List.cons.inj hRest).1]))

theorem spliced_eq_error_iff {t statement : Text} {cause : Cause} :
    spliced t statement = .error cause ↔ cause = .noClosingBrace ∧ '\x7d' ∉ t := by
  rw [spliced]
  cases hCut : cutAtLast '\x7d' t with
  | none =>
      have hNone := cutAtLast_eq_none_iff.mp hCut
      simp [hNone, eq_comm]
  | some parts =>
      obtain ⟨before, after⟩ := parts
      obtain ⟨rest, -, rfl, -⟩ := exists_of_cutAtLast hCut
      simp

theorem getLast?_indented {statement : Text} {c : Char} (h : statement.getLast? = some c)
    (x : Text) : (x ++ '\t' :: statement).getLast? = some c := by
  have hne : statement ≠ [] := by
    rintro rfl
    cases h
  rw [List.getLast?_append_of_ne_nil _ (by simp), List.getLast?_cons_of_ne_nil hne, h]

/-- The lines of the text and of the text with the statement in it. The statement takes over what
stands before the last closing brace on its line. -/
theorem exists_lines_spliced {t statement grown : Text} (h : spliced t statement = .ok grown)
    (hWhole : '\n' ∉ statement) (hEnd : statement.getLast? = some ')') :
    ∃ (above : List Line) (x y : Text) (below : List Line), '\x7d' ∉ y ∧
      (∀ line ∈ below, '\x7d' ∉ line) ∧
      t.lines = above ++ (x ++ '\x7d' :: y) :: below ∧
      grown.lines = above ++ (x ++ '\t' :: statement) :: ('\x7d' :: y) :: below := by
  rw [spliced] at h
  cases hCut : cutAtLast '\x7d' t with
  | none =>
      rw [hCut] at h
      cases h
  | some parts =>
      obtain ⟨before, after⟩ := parts
      obtain ⟨rest, rfl, rfl, hRest⟩ := exists_of_cutAtLast hCut
      rw [hCut] at h
      obtain rfl := Except.ok.inj h
      obtain ⟨above, x, y, below, hy, hBelow, hLines, hSplice⟩ :=
        exists_lines_splice before rest (c := '\x7d') (by decide) (by decide)
      refine ⟨above, x, y, below, fun hMem => hRest (hy _ hMem),
        fun line hLine hMem => hRest (hBelow line hLine _ hMem), hLines, ?_⟩
      have hLast : (x ++ '\t' :: statement).getLast? = some ')' := getLast?_indented hEnd x
      have hKeep : dropReturn (x ++ '\t' :: statement) = x ++ '\t' :: statement :=
        dropReturn_of_getLast? (by simp [hLast])
      have hLine := hSplice ('\t' :: statement) (by simpa using hWhole)
      rw [hKeep] at hLine
      exact hLine

/-- The last closing brace of a text stands in one place only. -/
theorem lastBrace_unique {above below above' below' : List Line} {x y x' y' : Text}
    (h : above ++ (x ++ '\x7d' :: y) :: below = above' ++ (x' ++ '\x7d' :: y') :: below')
    (hy : '\x7d' ∉ y) (hy' : '\x7d' ∉ y') (hBelow : ∀ line ∈ below, '\x7d' ∉ line)
    (hBelow' : ∀ line ∈ below', '\x7d' ∉ line) :
    above = above' ∧ x = x' ∧ y = y' ∧ below = below' := by
  obtain ⟨hAbove, hLine, hRest⟩ := append_cons_inj_of_last (p := fun line => '\x7d' ∈ line) h
    (by simp) (by simp) hBelow hBelow'
  obtain ⟨hx, -, hEnd⟩ := append_cons_inj_of_last (p := fun c => c = '\x7d') hLine rfl rfl
    (fun c hc hEq => hy (hEq ▸ hc)) (fun c hc hEq => hy' (hEq ▸ hc))
  exact ⟨hAbove, hx, hEnd, hRest⟩

theorem exists_spliced_of_lines {t statement : Text} {above below : List Line} {x y : Text}
    (hLines : t.lines = above ++ (x ++ '\x7d' :: y) :: below) (hy : '\x7d' ∉ y)
    (hBelow : ∀ line ∈ below, '\x7d' ∉ line) (hWhole : '\n' ∉ statement)
    (hEnd : statement.getLast? = some ')') :
    ∃ grown, spliced t statement = .ok grown ∧
      grown.lines = above ++ (x ++ '\t' :: statement) :: ('\x7d' :: y) :: below := by
  cases hSpliced : spliced t statement with
  | error cause =>
      have hLine : x ++ '\x7d' :: y ∈ t.lines := by
        rw [hLines]
        simp
      exact absurd (mem_of_mem_lines hLine (by simp)) (spliced_eq_error_iff.mp hSpliced).2
  | ok grown =>
      obtain ⟨above', x', y', below', hy', hBelow', hOld, hNew⟩ :=
        exists_lines_spliced hSpliced hWhole hEnd
      rw [hLines] at hOld
      obtain ⟨rfl, rfl, rfl, rfl⟩ := lastBrace_unique hOld hy hy' hBelow hBelow'
      exact ⟨grown, rfl, hNew⟩

end RouteFile

end Scaffold
