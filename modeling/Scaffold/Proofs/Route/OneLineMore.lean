import Scaffold.Proofs.Route.Classification
import Scaffold.Proofs.Route.FoundAgain
import Scaffold.Proofs.Route.FreeLines

namespace Scaffold

namespace RouteFile

open Text

/-- The last closing brace of the text has nothing but blanks before it on its line. -/
def BraceLeads (t : Text) : Prop :=
  ∃ above x y below, t.lines = above ++ (x ++ '\x7d' :: y) :: below ∧ '\x7d' ∉ y ∧
    (∀ line ∈ below, '\x7d' ∉ line) ∧ ∀ c ∈ x, isBlank c

theorem map_trim_solid_cons {line : Line} (h : line.isEmptyLine = false) (above below : List Line) :
    (solid (above ++ line :: below)).map trim =
      (solid above).map trim ++ line.trim :: (solid below).map trim := by
  rw [solid_append, solid_cons_of_solid h, List.map_append, List.map_cons]

/-- What the lines around two parts of a line have in common can be left out of account. -/
theorem perm_around_iff {α : Type} (above below : List α) (first second statement whole : α) :
    (above ++ first :: second :: below).Perm (statement :: (above ++ whole :: below)) ↔
      [first, second].Perm [statement, whole] := by
  have hLeft : (above ++ first :: second :: below).Perm ([first, second] ++ (above ++ below)) :=
    List.perm_middle.trans (List.perm_middle.cons first)
  have hRight : (statement :: (above ++ whole :: below)).Perm
      ([statement, whole] ++ (above ++ below)) :=
    List.perm_middle.cons statement
  rw [hLeft.congr_left, hRight.congr_right, List.perm_append_right_iff]

/-- A part with text of its own takes the tab in front of the statement into its line, so that the
two lines after the splice have one character more than the statement and the line before it. -/
theorem totalLength_parts {x y statement : Text} (hx : x.NonBlank)
    (hEnd : statement.getLast? = some ')') :
    totalLength [trim (x ++ '\t' :: statement), trim ('\x7d' :: y)] =
      totalLength [statement, trim (x ++ '\x7d' :: y)] + 1 := by
  have hBracket : NonBlank ('\t' :: statement) :=
    ⟨')', List.mem_cons_of_mem _ (List.mem_of_getLast? hEnd), by decide⟩
  have hBrace : NonBlank ('\x7d' :: y) := ⟨'\x7d', List.mem_cons_self .., by decide⟩
  have hLast : ('\t' :: statement).getLast? = some ')' := getLast?_indented hEnd []
  have hBehind : trim ('\x7d' :: y) = trimEnd ('\x7d' :: y) := by
    rw [trim, trimStart_brace]
  rw [trim_append_of_nonBlank hx hBracket, trim_append_of_nonBlank hx hBrace, hBehind,
    trimEnd_of_getLast? hLast (by decide)]
  simp only [totalLength, List.flatten_cons, List.flatten_nil, List.length_append, List.length_cons,
    List.length_nil]
  omega

/-- The two lines after the splice are the statement and the line before it exactly if the part
before the brace was blank. -/
theorem perm_parts_iff {x y statement : Text} (hBare : statement.trim = statement)
    (hEnd : statement.getLast? = some ')') :
    [trim (x ++ '\t' :: statement), trim ('\x7d' :: y)].Perm
      [statement, trim (x ++ '\x7d' :: y)] ↔ ∀ c ∈ x, isBlank c := by
  constructor
  · intro hPerm
    by_contra hNot
    have hx : x.NonBlank := by
      obtain ⟨c, hc, hWord⟩ := not_forall₂.mp hNot
      exact ⟨c, hc, Bool.eq_false_iff.mpr hWord⟩
    have hMore := totalLength_parts (y := y) hx hEnd
    rw [totalLength_perm hPerm] at hMore
    omega
  · intro hBlank
    rw [(trim_indented_eq_iff hBare hEnd).mpr hBlank, trim_blank_append hBlank]

/-- An added binding adds one line to the lines that are not blank, and that line reads as the
binding, exactly if the last closing brace leads its line. Blocks, groups and line ends do not
matter. -/
theorem solidLines_addBinding_perm_iff {t new : Text} {names : RouteNames}
    (hNames : names.Requested) (hWhole : '\n' ∉ names.binding)
    (h : addBinding t names = .ok (.applied new)) :
    (new.solidLines.map trim).Perm (names.binding :: t.solidLines.map trim) ↔ BraceLeads t := by
  obtain ⟨-, grown, hSpliced, rfl⟩ := addBinding_eq_applied_iff.mp h
  obtain ⟨above, x, y, below, hy, hBelow, hOld, hNew⟩ :=
    exists_lines_spliced hSpliced hWhole names.getLast?_binding
  have hStatement : isEmptyLine (x ++ '\t' :: names.binding) = false := by
    refine isEmptyLine_of_nonBlank ⟨')', ?_, by decide⟩
    exact List.mem_of_getLast? (getLast?_indented names.getLast?_binding x)
  have hWord (z : Text) : NonBlank (z ++ '\x7d' :: y) := ⟨'\x7d', by simp, by decide⟩
  have hBrace : isEmptyLine ('\x7d' :: y) = false := isEmptyLine_of_nonBlank (hWord [])
  have hText : t.solidLines.map trim =
      (solid above).map trim ++ trim (x ++ '\x7d' :: y) :: (solid below).map trim := by
    rw [solidLines, hOld, map_trim_solid_cons (isEmptyLine_of_nonBlank (hWord x))]
  have hGrown : grown.solidLines.map trim =
      (solid above).map trim ++ trim (x ++ '\t' :: names.binding) :: trim ('\x7d' :: y) ::
        (solid below).map trim := by
    rw [solidLines, hNew, map_trim_solid_cons hStatement, solid_cons_of_solid hBrace,
      List.map_cons]
  have hLeads : BraceLeads t ↔ ∀ c ∈ x, isBlank c := by
    constructor
    · rintro ⟨above', x', y', below', hLines, hy', hBelow', hBlank⟩
      rw [hOld] at hLines
      obtain ⟨-, rfl, -, -⟩ := lastBrace_unique hLines hy hy' hBelow hBelow'
      exact hBlank
    · exact fun hBlank => ⟨above, x, y, below, hOld, hy, hBelow, hBlank⟩
  rw [(solidLines_canonical_perm grown).congr_left, hGrown, hText, perm_around_iff,
    perm_parts_iff hNames.trim_binding names.getLast?_binding, hLeads]

/-- Two functions, no group, an indented brace and a carriage return at the end of its line. -/
theorem solidLines_addBinding_perm_two_functions :
    (RouteNames.ofRequest { resource := "u".toList } []).Requested ∧
      '\n' ∉ (RouteNames.ofRequest { resource := "u".toList } []).binding ∧
      ∃ new, addBinding "f \x7b\n\x7d\n\ng \x7b\n  \x7d // g\r\n".toList
          (RouteNames.ofRequest { resource := "u".toList } []) = .ok (.applied new) ∧
        (new.solidLines.map trim).Perm
          ((RouteNames.ofRequest { resource := "u".toList } []).binding ::
            (solidLines "f \x7b\n\x7d\n\ng \x7b\n  \x7d // g\r\n".toList).map trim) := by
  have hNames : (RouteNames.ofRequest { resource := "u".toList } []).Requested := ⟨_, _, rfl⟩
  have hWhole : '\n' ∉ (RouteNames.ofRequest { resource := "u".toList } []).binding := by
    decide +kernel
  have hApplied : addBinding "f \x7b\n\x7d\n\ng \x7b\n  \x7d // g\r\n".toList
      (RouteNames.ofRequest { resource := "u".toList } []) =
        .ok (.applied ("f \x7b\ng \x7b\n  \tuRoutes.Get(\"/u\", controllers.GetU)\n".toList ++
          "\x7d\n\x7d // g\n".toList)) := by
    decide +kernel
  have hLeads : BraceLeads "f \x7b\n\x7d\n\ng \x7b\n  \x7d // g\r\n".toList :=
    ⟨["f \x7b".toList, "\x7d".toList, [], "g \x7b".toList], "  ".toList, " // g".toList, [],
      by decide, by decide, by decide, List.all_eq_true.mp (by decide)⟩
  exact ⟨hNames, hWhole, _, hApplied,
    (solidLines_addBinding_perm_iff hNames hWhole hApplied).mpr hLeads⟩

end RouteFile

end Scaffold
