import Scaffold.Proofs.Route.Registrations

namespace Scaffold

namespace Registry

open Text

/-- The lines below the first line with the marker. -/
def linesBelow (t : Text) : List Line :=
  (t.lines.dropWhile fun line => !line.includes marker).drop 1

/-- Whether the call stands on a line of its own below the first line with the marker. -/
def callsBelow (t call : Text) : Bool :=
  (linesBelow t).any fun line => line.trim == call

variable {t call : Text} {above below : List Text} {segment : Text}

theorem includes_marker_chomp (s : Text) : (chomp s).includes marker = s.includes marker :=
  includes_chomp (by decide) (by decide) (by decide) s

theorem Marked.linesBelow (h : Marked marker t above segment below) :
    linesBelow t = below.map chomp := by
  have hAbove : ∀ line ∈ above.map chomp, (!line.includes marker) = true := by
    intro line hMem
    obtain ⟨other, hOther, rfl⟩ := List.mem_map.mp hMem
    rw [includes_marker_chomp, h.first other hOther]
    rfl
  have hLine : ¬(!(chomp segment).includes marker) = true := by
    rw [includes_marker_chomp, h.includes]
    decide
  rw [Registry.linesBelow, lines, h.segments, List.map_append, List.map_cons,
    List.dropWhile_append_of_pos hAbove, List.dropWhile_cons, if_neg hLine]
  rfl

theorem Marked.callsBelow_iff (h : Marked marker t above segment below) :
    callsBelow t call ↔ call ∈ below.map trim := by
  rw [callsBelow, h.linesBelow, List.any_map, List.any_eq_true, List.mem_map]
  simp only [Function.comp_apply, trim_chomp, beq_iff_eq]

theorem exists_marked_of_register {names : RouteNames} {outcome : Addition}
    (h : register t names = .ok outcome) :
    ∃ above segment below, Marked marker t above segment below := by
  refine exists_marked (by decide) (by decide) ?_
  cases hCut : t.cutAtFirst marker with
  | none =>
      rw [register, cutBelow, hCut] at h
      cases h
  | some parts => rw [Text.includes, hCut, Option.isSome_some]

/-- A registration that succeeds leaves its call below the marker, unless the text made the call
before, and nowhere below the marker. -/
theorem callsBelow_register_iff {names : RouteNames} {outcome : Addition}
    (hNames : names.Requested) (hWhole : '\n' ∉ names.resource)
    (h : register t names = .ok outcome) :
    callsBelow (outcome.textOver t) names.registration ↔
      (calls t names.registration → callsBelow t names.registration) := by
  obtain ⟨above, segment, below, hMarked⟩ := exists_marked_of_register h
  cases hOld : calls t names.registration with
  | true =>
      rw [hMarked.register_eq_alreadyPresent_iff.mpr hOld] at h
      obtain rfl := Except.ok.inj h
      exact ⟨fun hBelow _ => hBelow, fun hBelow => hBelow rfl⟩
  | false =>
      obtain ⟨new, hApplied, hNew⟩ :=
        hMarked.exists_register (hNames.newline_notMem_registration hWhole) hOld
      rw [hApplied] at h
      obtain rfl := Except.ok.inj h
      have hBelow : callsBelow new names.registration := by
        rw [hNew.callsBelow_iff, List.map_cons, trim_callLine hNames.trim_registration]
        exact List.mem_cons_self ..
      exact iff_of_true hBelow fun hCalls => absurd hCalls Bool.false_ne_true

/-- Another call stands below the marker, and the lines end with carriage returns. -/
theorem callsBelow_register_first :
    let text := "\t// solidgo:register-routes\r\nB(api)\r\n".toList
    let names := RouteNames.ofRequest { resource := "c".toList } []
    names.Requested ∧ '\n' ∉ names.resource ∧
      ∃ outcome, register text names = .ok outcome ∧
        (callsBelow (outcome.textOver text) names.registration ↔
          (calls text names.registration → callsBelow text names.registration)) := by
  intro text names
  have hNames : names.Requested := ⟨_, _, rfl⟩
  have hWhole : '\n' ∉ names.resource := by decide +kernel
  have hApplied : register text names = .ok (.applied
      "\t// solidgo:register-routes\r\n\tCRoutes(api)\nB(api)\r\n".toList) := by
    decide +kernel
  exact ⟨hNames, hWhole, _, hApplied, callsBelow_register_iff hNames hWhole hApplied⟩

/-- The only call stands in a function above the one with the marker: the registration succeeds and
nothing below the marker makes the call. -/
theorem not_callsBelow_register_above :
    let text := "func Legacy(api fiber.Router) \x7b\n\tUserRoutes(api)\n\x7d\n\n".toList ++
      "func Setup(api fiber.Router) \x7b\n\t// solidgo:register-routes\n\x7d\n".toList
    let names := RouteNames.ofRequest { resource := "user".toList } []
    names.Requested ∧ '\n' ∉ names.resource ∧ register text names = .ok .alreadyPresent ∧
      ¬ callsBelow (Addition.alreadyPresent.textOver text) names.registration := by
  refine ⟨⟨_, _, rfl⟩, ?_⟩
  decide +kernel

end Registry

end Scaffold
