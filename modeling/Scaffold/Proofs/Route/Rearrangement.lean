import Mathlib.Logic.Relation
import Scaffold.Proofs.Route.Zones

/-! Texts whose lines differ in their layout alone. Neither a binding nor a blank line has a bearing on
the zone of any other line, so bindings may stand wherever a binding can stand, in any order and with
any blanks around them: the zones of the text, and with them its canonical form, are the same. -/

namespace Scaffold.RouteFile

open Text Surroundings

/-- Behind the lines a block is open and a group was declared. -/
def CanBind (ls : List Line) : Prop :=
  (afterLines {} ls).inBlock ∧ (afterLines {} ls).grouped

/-- One change of the layout. The lines on both sides of a cut say where it is made. -/
inductive Shift : List Line → List Line → Prop where
  /-- Two bindings change places. Such exchanges make up every permutation of the bindings. -/
  | exchange {above middle below : List Line} {first second : Line}
      (first_binding : (afterLines {} above).roleOf first = .binding)
      (second_binding : (afterLines {} (above ++ first :: middle)).roleOf second = .binding) :
      Shift (above ++ first :: (middle ++ second :: below))
        (above ++ second :: (middle ++ first :: below))
  /-- A binding is moved down to a place where bindings can stand. -/
  | down {above middle below : List Line} {line : Line}
      (binding : (afterLines {} above).roleOf line = .binding)
      (place : CanBind (above ++ line :: middle)) :
      Shift (above ++ line :: (middle ++ below)) (above ++ (middle ++ line :: below))
  /-- A binding is moved up to a place where bindings can stand. -/
  | up {above middle below : List Line} {line : Line}
      (binding : (afterLines {} (above ++ middle)).roleOf line = .binding)
      (place : CanBind above) :
      Shift (above ++ (middle ++ line :: below)) (above ++ line :: (middle ++ below))
  /-- A binding gets other blanks at its ends. -/
  | respace {above below : List Line} {line other : Line}
      (binding : (afterLines {} above).roleOf line = .binding) (trim_eq : other.trim = line.trim) :
      Shift (above ++ line :: below) (above ++ other :: below)
  | insertBlank {above below : List Line} {line : Line} (blank : line.isEmptyLine) :
      Shift (above ++ below) (above ++ line :: below)
  | deleteBlank {above below : List Line} {line : Line} (blank : line.isEmptyLine) :
      Shift (above ++ line :: below) (above ++ below)

/-- The lines fall into the same zones, up to the order of the bindings and the blanks around them. -/
structure SameZones (ls ms : List Line) : Prop where
  kept : keptLines {} (solid ms) = keptLines {} (solid ls)
  bound : ((boundLines {} (solid ms)).map Text.trim).Perm
    ((boundLines {} (solid ls)).map Text.trim)
  closing : (solid ms).filter closes = (solid ls).filter closes

variable {ls ms ks above middle below above' below' : List Line} {line other : Line}

theorem SameZones.refl (ls : List Line) : SameZones ls ls :=
  ⟨rfl, .refl _, rfl⟩

theorem SameZones.trans (h : SameZones ls ms) (h' : SameZones ms ks) : SameZones ls ks :=
  ⟨h'.kept.trans h.kept, h'.bound.trans h.bound, h'.closing.trans h.closing⟩

theorem ofText_eq_of_sameZones {t t' : Text} (h : SameZones t.lines t'.lines) :
    ofText t' = ofText t := by
  rw [ofText_eq, ofText_eq, solidLines, solidLines, h.kept, h.closing, sortLines_eq_of_perm h.bound]

theorem solid_append_blank (hBlank : line.isEmptyLine) (above below : List Line) :
    solid (above ++ line :: below) = solid (above ++ below) := by
  rw [solid_append, solid_append, solid, solid, solid, List.filter_cons_of_neg (by simp [hBlank])]

theorem roleOf_of_blank (hBlank : line.isEmptyLine) (s : Surroundings) :
    s.roleOf line = .plain := by
  have hEmpty : line.trim = [] := beq_iff_eq.mp hBlank
  rw [roleOf, hEmpty]
  simp [includes, cutAtFirst]

/-- Blank lines leave the surroundings as they are. -/
theorem afterLines_solid (ls : List Line) : afterLines {} (solid ls) = afterLines {} ls := by
  induction ls using List.reverseRecOn with
  | nil => rfl
  | append_singleton ls line ih =>
      rw [afterLines_append_singleton]
      by_cases hBlank : line.isEmptyLine
      · rw [solid_append_blank hBlank, List.append_nil, roleOf_of_blank hBlank, ih]
        rfl
      · rw [solid_append, solid_cons_of_solid (Bool.eq_false_iff.mpr hBlank)]
        exact (afterLines_append_singleton _ _ _).trans (by rw [ih])

/-- A binding leaves the surroundings as they are. -/
theorem afterLines_append_binding (h : (afterLines {} above).roleOf line = .binding)
    (below : List Line) : afterLines {} (above ++ line :: below) = afterLines {} (above ++ below) := by
  rw [afterLines_append, afterLines_append]
  change ((afterLines {} above).after ((afterLines {} above).roleOf line)).afterLines below = _
  rw [h]
  rfl

theorem roleOf_eq_binding_of_canBind (hBindable : line.isBindable) (h : CanBind ls) :
    (afterLines {} ls).roleOf line = .binding :=
  roleOf_eq_binding_iff.mpr ⟨h.1, h.2, hBindable⟩

theorem isBindable_of_roleOf {s : Surroundings} (h : s.roleOf line = .binding) : line.isBindable :=
  (roleOf_eq_binding_iff.mp h).2.2

/-- One more binding is one more line among the bindings, and that is all. -/
theorem zones_append_binding (h : (afterLines {} above).roleOf line = .binding)
    (below : List Line) :
    keptLines {} (solid (above ++ line :: below)) = keptLines {} (solid (above ++ below)) ∧
      (boundLines {} (solid (above ++ line :: below))).Perm
        (line :: boundLines {} (solid (above ++ below))) ∧
      (solid (above ++ line :: below)).filter closes = (solid (above ++ below)).filter closes := by
  have hBindable := isBindable_of_roleOf h
  have hSolid := isEmptyLine_eq_false rfl isBindable_of_trim_eq hBindable
  rw [← afterLines_solid] at h
  rw [solid_append, solid_append, solid_cons_of_solid hSolid]
  refine ⟨?_, ?_, ?_⟩
  · rw [keptLines_append, keptLines_append, keptLines_cons, h]
    rfl
  · rw [boundLines_append, boundLines_append, boundLines_cons, h]
    exact List.perm_middle
  · rw [List.filter_append, List.filter_append,
      List.filter_cons_of_neg (by simp [closes_of_isBindable hBindable])]

/-- It does not matter where a binding is put and what blanks it has. -/
theorem sameZones_of_bindings (h : (afterLines {} above).roleOf line = .binding)
    (h' : (afterLines {} above').roleOf other = .binding) (hRest : above ++ below = above' ++ below')
    (hTrim : other.trim = line.trim) :
    SameZones (above ++ line :: below) (above' ++ other :: below') := by
  obtain ⟨hKept, hBound, hClosing⟩ := zones_append_binding h below
  obtain ⟨hKept', hBound', hClosing'⟩ := zones_append_binding h' below'
  rw [← hRest] at hKept' hBound' hClosing'
  refine ⟨hKept'.trans hKept.symm, ?_, hClosing'.trans hClosing.symm⟩
  refine (hBound'.map Text.trim).trans (.trans ?_ (hBound.map Text.trim).symm)
  rw [List.map_cons, List.map_cons, hTrim]

theorem Shift.sameZones (h : Shift ls ms) : SameZones ls ms := by
  cases h with
  | @exchange above middle below first second first_binding second_binding =>
      rw [afterLines_append_binding first_binding] at second_binding
      have hPlace : CanBind above := by
        obtain ⟨hBlock, hGroup, -⟩ := roleOf_eq_binding_iff.mp first_binding
        exact ⟨hBlock, hGroup⟩
      have hSecond := roleOf_eq_binding_of_canBind (isBindable_of_roleOf second_binding) hPlace
      -- The first binding goes down behind the second one, and the second one up to its old place.
      have hDown : (afterLines {} (above ++ middle ++ [second])).roleOf first = .binding := by
        rw [afterLines_append_binding second_binding, List.append_nil]
        obtain ⟨hBlock, hGroup, -⟩ := roleOf_eq_binding_iff.mp second_binding
        exact roleOf_eq_binding_of_canBind (isBindable_of_roleOf first_binding) ⟨hBlock, hGroup⟩
      have hFirst : SameZones (above ++ first :: (middle ++ second :: below))
          (above ++ middle ++ [second] ++ first :: below) :=
        sameZones_of_bindings first_binding hDown (by simp) rfl
      have hUp : SameZones (above ++ middle ++ second :: (first :: below))
          (above ++ second :: (middle ++ first :: below)) :=
        sameZones_of_bindings second_binding hSecond (by simp) rfl
      rw [List.append_assoc _ [second]] at hFirst
      exact hFirst.trans hUp
  | @down above middle below line binding place =>
      rw [CanBind, afterLines_append_binding binding] at place
      have hPlace := roleOf_eq_binding_of_canBind (isBindable_of_roleOf binding) place
      rw [← List.append_assoc]
      exact sameZones_of_bindings binding hPlace (by simp) rfl
  | @up above middle below line binding place =>
      have hPlace := roleOf_eq_binding_of_canBind (isBindable_of_roleOf binding) place
      rw [← List.append_assoc]
      exact sameZones_of_bindings binding hPlace (by simp) rfl
  | @respace above below line other binding trim_eq =>
      have hOther : (afterLines {} above).roleOf other = .binding := by
        rw [roleOf, trim_eq]
        exact binding
      exact sameZones_of_bindings binding hOther rfl trim_eq
  | insertBlank blank =>
      have hSolid := solid_append_blank blank
      exact ⟨by rw [hSolid], by rw [hSolid], by rw [hSolid]⟩
  | deleteBlank blank =>
      have hSolid := solid_append_blank blank
      exact ⟨by rw [hSolid], by rw [hSolid], by rw [hSolid]⟩

theorem sameZones_of_shifts (h : Relation.ReflTransGen Shift ls ms) : SameZones ls ms := by
  induction h with
  | refl => exact .refl ls
  | tail _ hShift ih => exact ih.trans hShift.sameZones

/-- Where the bindings stand, in what order and with what blanks, and where blank lines stand, does
not matter for the canonical form. -/
theorem canonical_eq_of_shifts {t t' : Text} (h : Relation.ReflTransGen Shift t.lines t'.lines) :
    canonical t' = canonical t := by
  rw [canonical, canonical, ofText_eq_of_sameZones (sameZones_of_shifts h)]

/-- Two bindings around another line change places, the blank line between them goes, and one of them
gets other blanks. -/
theorem canonical_eq_of_shifts_bindings :
    let t : Text := "f \x7b\n\tg.Group(\n\tbRoutes.x\n\ty\n\n\taRoutes.x\n\x7d\n".toList
    let t' : Text := "f \x7b\n\tg.Group(\naRoutes.x \n\ty\n\tbRoutes.x\n\x7d".toList
    Relation.ReflTransGen Shift t.lines t'.lines ∧ canonical t' = canonical t := by
  intro t t'
  let above : List Line := ["f \x7b".toList, "\tg.Group(".toList]
  let first : Line := "\tbRoutes.x".toList
  let second : Line := "\taRoutes.x".toList
  let other : Line := "\ty".toList
  have hExchange : Shift (above ++ first :: ([other, []] ++ second :: ["\x7d".toList]))
      (above ++ second :: ([other, []] ++ first :: ["\x7d".toList])) :=
    .exchange (by decide) (by decide)
  have hBlank : Shift (above ++ [second, other] ++ [] :: [first, "\x7d".toList])
      (above ++ [second, other] ++ [first, "\x7d".toList]) :=
    .deleteBlank (by decide)
  have hRespace : Shift (above ++ second :: [other, first, "\x7d".toList])
      (above ++ "aRoutes.x ".toList :: [other, first, "\x7d".toList]) :=
    .respace (by decide) (by decide)
  have hShifts : Relation.ReflTransGen Shift t.lines t'.lines :=
    ((Relation.ReflTransGen.single hExchange).tail hBlank).tail hRespace
  exact ⟨hShifts, canonical_eq_of_shifts hShifts⟩

end Scaffold.RouteFile
