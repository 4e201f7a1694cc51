import Scaffold.Text.Blank
import Scaffold.Text.Lines

/-!
A route file in three zones: the preamble up to and with the group declaration, the route bindings,
and the closing lines. The zone of a line depends on the lines before it only through two facts:
whether the nearest brace line opened a block, and whether a group was declared already. Blank lines
belong to no zone. Writing the zones one after the other, with the bindings in order, gives the
canonical form of the file.
-/

namespace Scaffold

/-- The part that a line plays in a route file. -/
inductive Role where
  /-- The line ends with an opening brace. -/
  | opening
  /-- The line starts with a closing brace. -/
  | closing
  /-- The line declares a route group inside a block. -/
  | group
  /-- The line binds a route, inside a block and after a group declaration. -/
  | binding
  | plain
  deriving DecidableEq

/-- What a line has to know of the lines before it. -/
structure Surroundings where
  /-- The nearest line before it that is opening or closing is an opening one. -/
  inBlock : Bool := false
  /-- A group was declared before it. -/
  grouped : Bool := false
  deriving DecidableEq

namespace Surroundings

/-- The role of a line in these surroundings. -/
def roleOf (s : Surroundings) (line : Line) : Role :=
  let bare := line.trim
  if bare.getLast? = some '\x7b' then .opening
  else if bare.head? = some '\x7d' then .closing
  else if s.inBlock && bare.includes ".Group(".toList then .group
  else if s.inBlock && s.grouped && bare.includes "Routes.".toList then .binding
  else .plain

/-- The surroundings of the line after one with the given role. -/
def after (s : Surroundings) : Role → Surroundings
  | .opening => { s with inBlock := true }
  | .closing => { s with inBlock := false }
  | .group => { s with grouped := true }
  | .binding => s
  | .plain => s

/-- The lines with their roles. -/
def roles (s : Surroundings) : List Line → List (Role × Line)
  | [] => []
  | line :: rest =>
    let role := s.roleOf line
    (role, line) :: (s.after role).roles rest

end Surroundings

/-- Whether the line holds nothing but blanks. -/
def Text.isEmptyLine (line : Line) : Bool :=
  line.trim == []

/-- A route file by zones. -/
structure RouteFile where
  /-- The lines up to the bindings and all that has no other zone, as they are. -/
  preamble : List Line
  /-- The binding statements in order, without outer blanks. -/
  bindings : List Line
  /-- The lines that close blocks, as they are. -/
  closing : List Line
  deriving DecidableEq

namespace RouteFile

/-- The lines in order with one more line at its place. -/
def insertSorted (line : Line) : List Line → List Line
  | [] => [line]
  | other :: rest => if line.notAfter other then line :: other :: rest else other :: insertSorted line rest

/-- The lines in order. -/
def sortLines (ls : List Line) : List Line :=
  ls.foldr insertSorted []

/-- The lines of the text that are not blank, with their roles. -/
def rolesOf (t : Text) : List (Role × Line) :=
  ({} : Surroundings).roles (t.lines.filter fun line => !line.isEmptyLine)

/-- The lines whose role satisfies `p`. -/
def withRole (p : Role → Bool) (marked : List (Role × Line)) : List Line :=
  (marked.filter fun (role, _) => p role).map (·.2)

/-- The zones of the text. -/
def ofText (t : Text) : RouteFile :=
  let marked := rolesOf t
  { preamble := withRole (fun role => role != .closing && role != .binding) marked
    bindings := sortLines ((withRole (· == .binding) marked).map Text.trim)
    closing := withRole (· == .closing) marked }

/-- Whether the text declares a route group. -/
def declaresGroup (t : Text) : Bool :=
  (rolesOf t).any fun (role, _) => role == .group

/-- Whether the statement is one of the bindings. -/
def binds (f : RouteFile) (statement : Text) : Bool :=
  f.bindings.contains statement.trim

/-- The text of the zones one after the other, with the bindings indented by a tab. -/
def render (f : RouteFile) : Text :=
  Text.ofLines (f.preamble ++ f.bindings.map ('\t' :: ·) ++ f.closing)

/-- The canonical form of the text. -/
def canonical (t : Text) : Text :=
  (ofText t).render

theorem insertSorted_perm (line : Line) (ls : List Line) :
    (insertSorted line ls).Perm (line :: ls) := by
  induction ls with
  | nil => exact .refl _
  | cons other rest ih =>
    unfold insertSorted
    split
    · exact .refl _
    · exact (ih.cons other).trans (.swap line other rest)

theorem sortLines_perm (ls : List Line) : (sortLines ls).Perm ls := by
  induction ls with
  | nil => exact .refl _
  | cons line rest ih => exact (insertSorted_perm line _).trans (ih.cons line)

theorem insertSorted_pairwise {line : Line} {ls : List Line} (h : ls.Pairwise (Text.notAfter · ·)) :
    (insertSorted line ls).Pairwise (Text.notAfter · ·) := by
  induction ls with
  | nil => exact List.pairwise_singleton _ _
  | cons other rest ih =>
    obtain ⟨hother, hrest⟩ := List.pairwise_cons.1 h
    unfold insertSorted
    split
    · rename_i hle
      refine List.pairwise_cons.2 ⟨fun x hx => ?_, h⟩
      rcases List.mem_cons.1 hx with rfl | hx
      · exact hle
      · exact Text.notAfter_trans hle (hother x hx)
    · rename_i hle
      refine List.pairwise_cons.2 ⟨fun x hx => ?_, ih hrest⟩
      rcases List.mem_cons.1 ((insertSorted_perm line rest).mem_iff.1 hx) with rfl | hx
      · exact (Text.notAfter_total x other).resolve_left hle
      · exact hother x hx

theorem sortLines_pairwise (ls : List Line) : (sortLines ls).Pairwise (Text.notAfter · ·) := by
  induction ls with
  | nil => exact .nil
  | cons line rest ih => exact insertSorted_pairwise ih

/-- The order of the lines before they are sorted does not matter. -/
theorem sortLines_eq_of_perm {as bs : List Line} (h : as.Perm bs) : sortLines as = sortLines bs :=
  ((sortLines_perm as).trans (h.trans (sortLines_perm bs).symm)).eq_of_pairwise
    (fun _ _ _ _ => Text.notAfter_antisymm) (sortLines_pairwise as) (sortLines_pairwise bs)

end RouteFile

end Scaffold
