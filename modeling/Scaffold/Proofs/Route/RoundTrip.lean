import Scaffold.Proofs.Route.Zones
import Scaffold.Proofs.Text.ByteOrder

/-! Writing zones and reading them again. Reading a text always gives regular zones, and of regular
zones a second reading changes two things only: each line loses a carriage return at its end, and a
preamble line that looks like a binding behind the group becomes a binding. Zones for which neither
happens are faithful, and these are exactly the zones that come back as they were. -/

namespace Scaffold.RouteFile

open Text Surroundings

/-- What the zones of every text satisfy. -/
structure Regular (f : RouteFile) : Prop where
  whole : ∀ line ∈ f.preamble ++ f.bindings ++ f.closing, '\n' ∉ line
  solid : ∀ line ∈ f.preamble ++ f.bindings ++ f.closing, line.isEmptyLine = false
  bare : ∀ line ∈ f.bindings, line.trim = line
  /-- No line of the preamble closes a block. -/
  preamble : ∀ line ∈ f.preamble, line.closes = false
  closing : ∀ line ∈ f.closing, line.closes
  /-- The bindings come in the order of their bytes. -/
  sorted : f.bindings.Pairwise fun line later => bytes line ≤ bytes later
  /-- Each binding names a route, and is neither a group nor an opening nor a closing line. -/
  binding : ∀ line ∈ f.bindings, line.includes "Routes.".toList ∧
    line.includes ".Group(".toList = false ∧ line.getLast? ≠ some '\x7b' ∧
    line.head? ≠ some '\x7d'
  /-- Bindings come after a group inside a block. -/
  armed : f.bindings ≠ [] → Armed f.preamble

/-- What zones satisfy that come back as they were written. -/
structure Faithful (f : RouteFile) : Prop extends Regular f where
  noReturn : ∀ line ∈ f.preamble ++ f.closing, line.getLast? ≠ some '\r'
  /-- Behind a group inside a block no line of the preamble looks like a binding. -/
  settled : ∀ above line below, f.preamble = above ++ line :: below → Armed above →
    line.includes "Routes.".toList → line.includes ".Group(".toList ∨ line.opens

theorem isBindable_iff_of_bare {line : Line} (h : line.trim = line) :
    line.isBindable ↔ line.includes "Routes.".toList ∧ line.includes ".Group(".toList = false ∧
      line.getLast? ≠ some '\x7b' ∧ line.head? ≠ some '\x7d' := by
  rw [isBindable_iff, closes, opens, h]
  by_cases hLast : line.getLast? = some '\x7b'
  · simp [hLast]
  · by_cases hHead : line.head? = some '\x7d' <;> simp [hLast, hHead]

theorem Regular.isBindable {f : RouteFile} (h : Regular f) {line : Line}
    (hMem : line ∈ f.bindings) : line.isBindable :=
  (isBindable_iff_of_bare (h.bare line hMem)).mpr (h.binding line hMem)

theorem Regular.written {f : RouteFile} (h : Regular f) :
    ∀ line ∈ f.preamble ++ f.bindings.map ('\t' :: ·) ++ f.closing, '\n' ∉ line := by
  intro line hLine
  rcases List.mem_append.mp hLine with hLine | hLine
  · rcases List.mem_append.mp hLine with hLine | hLine
    · exact h.whole line (by simp [hLine])
    · obtain ⟨short, hShort, rfl⟩ := List.mem_map.mp hLine
      have hNot : '\n' ∉ short := h.whole short (by simp [hShort])
      simpa using hNot
  · exact h.whole line (by simp [hLine])

theorem Regular.isBindable_of_mem_written {f : RouteFile} (h : Regular f) {line : Line}
    (hMem : line ∈ f.bindings.map ('\t' :: ·)) : line.isBindable := by
  obtain ⟨short, hShort, rfl⟩ := List.mem_map.mp hMem
  rw [isBindable_of_trim_eq (trim_tab short)]
  exact h.isBindable hShort

theorem mem_sortLines {line : Line} {ls : List Line} : line ∈ sortLines ls ↔ line ∈ ls :=
  (sortLines_perm ls).mem_iff

theorem sortLines_pairwise_bytes (ls : List Line) :
    (sortLines ls).Pairwise fun line later => bytes line ≤ bytes later :=
  (sortLines_pairwise ls).imp notAfter_iff_bytes_le.mp

theorem sortLines_eq_self {ls : List Line}
    (h : ls.Pairwise fun line later => bytes line ≤ bytes later) : sortLines ls = ls :=
  (sortLines_perm ls).eq_of_pairwise (fun _ _ _ _ => Text.notAfter_antisymm)
    (sortLines_pairwise ls) (h.imp notAfter_iff_bytes_le.mpr)

theorem solid_of_mem_solidLines {t : Text} {line : Line} (h : line ∈ t.solidLines) :
    '\n' ∉ line ∧ line.isEmptyLine = false := by
  obtain ⟨hMem, hSolid⟩ := List.mem_filter.mp h
  exact ⟨newline_notMem_of_mem_lines hMem, by simpa using hSolid⟩

theorem newline_notMem_trim {line : Line} (h : '\n' ∉ line) : '\n' ∉ line.trim := by
  intro hMem
  obtain ⟨a, b, hEq, -⟩ := exists_outer line
  rw [hEq] at h
  exact h (by simp [hMem])

/-- Reading finds regular zones, whatever the text is. -/
theorem regular_ofText (t : Text) : Regular (ofText t) := by
  have hKept (line : Line) (h : line ∈ (ofText t).preamble) : line ∈ t.solidLines := by
    rw [ofText_eq] at h
    exact (keptLines_sublist _ _).subset h
  have hBound (line : Line) (h : line ∈ (ofText t).bindings) :
      ∃ long ∈ t.solidLines, long.isBindable ∧ long.trim = line := by
    rw [ofText_eq, mem_sortLines] at h
    obtain ⟨long, hLong, rfl⟩ := List.mem_map.mp h
    obtain ⟨hMem, hBindable⟩ := isBindable_of_mem_boundLines hLong
    exact ⟨long, hMem, hBindable, rfl⟩
  have hClosing (line : Line) (h : line ∈ (ofText t).closing) :
      line ∈ t.solidLines ∧ line.closes := by
    rw [ofText_eq] at h
    exact List.mem_filter.mp h
  have hSolid (line : Line)
      (h : line ∈ (ofText t).preamble ++ (ofText t).bindings ++ (ofText t).closing) :
      '\n' ∉ line ∧ line.isEmptyLine = false := by
    rcases List.mem_append.mp h with h | h
    · rcases List.mem_append.mp h with h | h
      · exact solid_of_mem_solidLines (hKept line h)
      · obtain ⟨long, hMem, -, rfl⟩ := hBound line h
        obtain ⟨hWhole, hFull⟩ := solid_of_mem_solidLines hMem
        exact ⟨newline_notMem_trim hWhole, isEmptyLine_of_trim_eq (trim_trim long) ▸ hFull⟩
    · exact solid_of_mem_solidLines (hClosing line h).1
  refine
    { whole := fun line h => (hSolid line h).1
      solid := fun line h => (hSolid line h).2
      bare := fun line h => ?_
      preamble := fun line h => ?_
      closing := fun line h => (hClosing line h).2
      sorted := sortLines_pairwise_bytes _
      binding := fun line h => ?_
      armed := fun h => ?_ }
  · obtain ⟨long, -, -, rfl⟩ := hBound line h
    exact trim_trim long
  · rw [ofText_eq] at h
    exact closes_of_mem_keptLines h
  · obtain ⟨long, -, hBindable, rfl⟩ := hBound line h
    rw [← isBindable_iff_of_bare (trim_trim long), isBindable_of_trim_eq (trim_trim long)]
    exact hBindable
  · obtain ⟨line, hLine⟩ := List.exists_mem_of_ne_nil _ h
    rw [ofText_eq, mem_sortLines] at hLine
    obtain ⟨long, hLong, -⟩ := List.mem_map.mp hLine
    obtain ⟨above, below, hCut, hRole⟩ := mem_boundLines_iff.mp hLong
    have hArmed := (armed_keptLines above).2 (roleOf_eq_binding_iff.mp hRole).2.1
    rw [ofText_eq, hCut, keptLines_append]
    exact hArmed.mono (List.sublist_append_left _ _)

theorem isEmptyLine_dropReturn (line : Line) : (dropReturn line).isEmptyLine = line.isEmptyLine :=
  isEmptyLine_of_trim_eq (trim_dropReturn line)

theorem closes_dropReturn (line : Line) : (dropReturn line).closes = line.closes :=
  closes_of_trim_eq (trim_dropReturn line)

theorem closes_of_mem_map_dropReturn {ls : List Line} {closing : Bool}
    (h : ∀ line ∈ ls, line.closes = closing) :
    ∀ line ∈ ls.map dropReturn, line.closes = closing := by
  intro line hLine
  obtain ⟨long, hLong, rfl⟩ := List.mem_map.mp hLine
  rw [closes_dropReturn]
  exact h long hLong

theorem armed_map_dropReturn {ls : List Line} (h : Armed ls) : Armed (ls.map dropReturn) := by
  obtain ⟨opening, group, hPair, hOpens, hGroup⟩ := h
  refine ⟨dropReturn opening, dropReturn group, hPair.map dropReturn, ?_, ?_⟩
  · rw [opens_of_trim_eq (trim_dropReturn opening)]
    exact hOpens
  · rw [namesGroup_of_trim_eq (trim_dropReturn group)]
    exact hGroup

theorem armed_of_map_dropReturn {ls : List Line} (h : Armed (ls.map dropReturn)) : Armed ls := by
  obtain ⟨opening, group, hPair, hOpens, hGroup⟩ := h
  obtain ⟨pair, hSub, hMap⟩ := List.sublist_map_iff.mp hPair
  obtain ⟨first, rest, rfl, rfl, hRest⟩ := List.map_eq_cons_iff.mp hMap.symm
  obtain ⟨second, rfl, rfl⟩ := List.map_eq_singleton_iff.mp hRest
  refine ⟨first, second, hSub, ?_, ?_⟩
  · rwa [opens_of_trim_eq (trim_dropReturn first)] at hOpens
  · rwa [namesGroup_of_trim_eq (trim_dropReturn second)] at hGroup

theorem getLast?_ne_return_of_bare {line : Line} (h : line.trim = line) :
    line.getLast? ≠ some '\r' := by
  intro hLast
  have hBlank := (trim_eq_self_iff.mp h).2 '\r' hLast
  revert hBlank
  decide

theorem dropReturn_tab_of_bare {line : Line} (h : line.trim = line) (hne : line ≠ []) :
    dropReturn ('\t' :: line) = '\t' :: line := by
  refine dropReturn_of_getLast? ?_
  rw [List.getLast?_cons_of_ne_nil hne]
  exact getLast?_ne_return_of_bare h

theorem ne_nil_of_solid {line : Line} (h : line.isEmptyLine = false) : line ≠ [] := by
  rintro rfl
  cases h

theorem lines_render {f : RouteFile} (h : Regular f) :
    (render f).lines =
      f.preamble.map dropReturn ++ f.bindings.map ('\t' :: ·) ++ f.closing.map dropReturn := by
  have hBindings : (f.bindings.map ('\t' :: ·)).map dropReturn = f.bindings.map ('\t' :: ·) := by
    rw [List.map_map]
    apply List.map_congr_left
    intro line hLine
    exact dropReturn_tab_of_bare (h.bare line hLine)
      (ne_nil_of_solid (h.solid line (by simp [hLine])))
  rw [render, lines_ofLines h.written, List.map_append, List.map_append, hBindings]

theorem solidLines_render {f : RouteFile} (h : Regular f) :
    (render f).solidLines =
      f.preamble.map dropReturn ++ f.bindings.map ('\t' :: ·) ++ f.closing.map dropReturn := by
  rw [solidLines, solid, lines_render h]
  apply List.filter_eq_self.mpr
  intro line hLine
  rw [Bool.not_eq_true']
  rcases List.mem_append.mp hLine with hLine | hLine
  · rcases List.mem_append.mp hLine with hLine | hLine
    · obtain ⟨long, hLong, rfl⟩ := List.mem_map.mp hLine
      rw [isEmptyLine_dropReturn]
      exact h.solid long (by simp [hLong])
    · obtain ⟨short, hShort, rfl⟩ := List.mem_map.mp hLine
      rw [isEmptyLine_of_trim_eq (trim_tab short)]
      exact h.solid short (by simp [hShort])
  · obtain ⟨long, hLong, rfl⟩ := List.mem_map.mp hLine
    rw [isEmptyLine_dropReturn]
    exact h.solid long (by simp [hLong])

/-- What a second reading makes of regular zones: the closing lines stay, and of the preamble the
lines that now are bindings go to the bindings. -/
theorem ofText_render {f : RouteFile} (h : Regular f) :
    ofText (render f) =
      { preamble := keptLines {} (f.preamble.map dropReturn)
        bindings := sortLines
          ((boundLines {} (f.preamble.map dropReturn)).map Text.trim ++ f.bindings)
        closing := f.closing.map dropReturn } := by
  have hPreamble := closes_of_mem_map_dropReturn h.preamble
  have hClosing := closes_of_mem_map_dropReturn h.closing
  -- The bindings are read behind the whole preamble, which arms them.
  have hBindings : keptLines (afterLines {} (f.preamble.map dropReturn))
        (f.bindings.map ('\t' :: ·)) = [] ∧
      boundLines (afterLines {} (f.preamble.map dropReturn)) (f.bindings.map ('\t' :: ·)) =
        f.bindings.map ('\t' :: ·) := by
    by_cases hNone : f.bindings = []
    · rw [hNone]
      exact ⟨rfl, rfl⟩
    · obtain ⟨hBlock, hGroup⟩ :=
        afterLines_of_armed hPreamble (armed_map_dropReturn (h.armed hNone))
      exact zones_of_bindable hBlock hGroup fun line => h.isBindable_of_mem_written
  have hTrim : (f.bindings.map ('\t' :: ·)).map Text.trim = f.bindings := by
    rw [List.map_map]
    refine (List.map_congr_left fun line hLine => ?_).trans (List.map_id _)
    exact (trim_tab line).trans (h.bare line hLine)
  have hNotClosing : (f.preamble.map dropReturn ++ f.bindings.map ('\t' :: ·)).filter closes
      = [] := by
    apply List.filter_eq_nil_iff.mpr
    intro line hLine
    rcases List.mem_append.mp hLine with hLine | hLine
    · simp [hPreamble line hLine]
    · simp [closes_of_isBindable (h.isBindable_of_mem_written hLine)]
  rw [ofText_eq, solidLines_render h, keptLines_append, boundLines_append, keptLines_append,
    boundLines_append, hBindings.1, hBindings.2, (zones_of_closing hClosing).1,
    (zones_of_closing hClosing).2, List.append_nil, List.append_nil, List.append_nil,
    List.map_append, hTrim, List.filter_append, hNotClosing,
    List.filter_eq_self.mpr hClosing, List.nil_append]

theorem map_dropReturn_eq_self_iff {ls : List Line} :
    ls.map dropReturn = ls ↔ ∀ line ∈ ls, line.getLast? ≠ some '\r' := by
  conv => lhs; rhs; rw [← List.map_id ls]
  rw [List.map_inj_left]
  exact forall₂_congr fun line _ => dropReturn_eq_self_iff

/-- Behind a group no line of the preamble looks like a binding exactly if a second reading finds
no binding in the preamble. -/
theorem boundLines_eq_nil_iff {ls : List Line} (h : ∀ line ∈ ls, line.closes = false) :
    boundLines {} ls = [] ↔ ∀ above line below, ls = above ++ line :: below → Armed above →
      line.includes "Routes.".toList → line.includes ".Group(".toList ∨ line.opens := by
  constructor
  · rintro hNone above line below rfl hArmed hRoutes
    by_contra hNot
    rw [not_or, Bool.not_eq_true, Bool.not_eq_true] at hNot
    have hBindable : line.isBindable :=
      isBindable_iff.mpr ⟨hRoutes, hNot.1, hNot.2, h line (by simp)⟩
    have hOpen : ∀ other ∈ above, other.closes = false := fun other hMem => h other (by simp [hMem])
    have hMem : line ∈ boundLines {} (above ++ line :: below) := mem_boundLines_iff.mpr
      ⟨above, below, rfl, (roleOf_afterLines_eq_binding_iff hOpen).mpr ⟨hArmed, hBindable⟩⟩
    rw [hNone] at hMem
    cases hMem
  · intro hSettled
    apply List.eq_nil_iff_forall_not_mem.mpr
    intro line hMem
    obtain ⟨above, below, rfl, hRole⟩ := mem_boundLines_iff.mp hMem
    have hOpen : ∀ other ∈ above, other.closes = false := fun other hMem => h other (by simp [hMem])
    obtain ⟨hArmed, hBindable⟩ := (roleOf_afterLines_eq_binding_iff hOpen).mp hRole
    obtain ⟨hRoutes, hGroup, hOpens, -⟩ := isBindable_iff.mp hBindable
    rcases hSettled above line below rfl hArmed hRoutes with hEither | hEither
    · rw [hGroup] at hEither
      cases hEither
    · rw [hOpens] at hEither
      cases hEither

theorem Faithful.map_dropReturn {f : RouteFile} (h : Faithful f) :
    f.preamble.map dropReturn = f.preamble ∧ f.closing.map dropReturn = f.closing :=
  ⟨map_dropReturn_eq_self_iff.mpr fun line hLine => h.noReturn line (List.mem_append_left _ hLine),
    map_dropReturn_eq_self_iff.mpr fun line hLine => h.noReturn line (List.mem_append_right _ hLine)⟩

theorem ofText_render_of_faithful {f : RouteFile} (h : Faithful f) : ofText (render f) = f := by
  obtain ⟨hPreamble, hClosing⟩ := h.map_dropReturn
  have hBound : boundLines {} f.preamble = [] := (boundLines_eq_nil_iff h.preamble).mpr h.settled
  rw [ofText_render h.toRegular, hPreamble, hClosing, hBound, keptLines_eq_self h.preamble hBound,
    List.map_nil, List.nil_append, sortLines_eq_self h.sorted]

theorem faithful_of_ofText_render {f : RouteFile} (h : ofText (render f) = f) : Faithful f := by
  have hRegular : Regular f := h ▸ regular_ofText (render f)
  have hZones := ofText_render hRegular
  rw [h] at hZones
  have hBound : boundLines {} (f.preamble.map dropReturn) = [] := by
    have hLength := congrArg (fun zones => zones.bindings.length) hZones
    simp only [(sortLines_perm _).length_eq, List.length_append, List.length_map] at hLength
    exact List.length_eq_zero_iff.mp (by omega)
  have hOpen := closes_of_mem_map_dropReturn hRegular.preamble
  have hPreamble : f.preamble.map dropReturn = f.preamble := by
    have hKept := congrArg RouteFile.preamble hZones
    rw [keptLines_eq_self hOpen hBound] at hKept
    exact hKept.symm
  have hClosing : f.closing.map dropReturn = f.closing := (congrArg RouteFile.closing hZones).symm
  rw [hPreamble] at hBound
  refine
    { toRegular := hRegular
      noReturn := fun line hLine => ?_
      settled := (boundLines_eq_nil_iff hRegular.preamble).mp hBound }
  rcases List.mem_append.mp hLine with hLine | hLine
  · exact map_dropReturn_eq_self_iff.mp hPreamble line hLine
  · exact map_dropReturn_eq_self_iff.mp hClosing line hLine

/-- Writing zones and reading the text gives the zones back exactly if they are faithful. -/
theorem ofText_render_eq_self_iff (f : RouteFile) : ofText (render f) = f ↔ Faithful f :=
  ⟨faithful_of_ofText_render, ofText_render_of_faithful⟩

end Scaffold.RouteFile
