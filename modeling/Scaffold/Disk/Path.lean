import Scaffold.Text.Quoted

/-!
A path is the text that names a file. Joining and taking the parent work on that text alone: they
look at no disk, and apart from the cut itself they leave repeated slashes and dot steps as they
were written, because a path is shown to the user as it was put together.
-/

namespace Scaffold

/-- The text that names a file or directory. -/
structure Path where
  text : Text
  deriving DecidableEq, Inhabited

namespace Path

/-- The path that is written as `s`. -/
def ofString (s : String) : Path :=
  ⟨s.toList⟩

instance : ToString Path := ⟨fun p => p.text.str⟩

/-- The path between quotes. -/
def quoted (p : Path) : String :=
  (Text.quoted p.text).str

/-- Whether the path starts at the root directory. -/
def isAbsolute (p : Path) : Bool :=
  p.text.head? == some '/'

/-- The path `name` as seen from `base`. An absolute `name` stands for itself; an empty one names
the base with a slash behind it. -/
def join (base : Path) (name : Text) : Path :=
  if name.head? = some '/' ∨ base.text = [] then ⟨name⟩
  else if base.text.getLast? = some '/' then ⟨base.text ++ name⟩
  else ⟨base.text ++ '/' :: name⟩

/-- The steps from one directory to the next: the pieces between slashes that are not empty. -/
def steps (p : Path) : List Text :=
  (p.text.splitOn '/').filter (· ≠ [])

/-- The step that stays in the directory. -/
def stay : Text := ['.']

/-- The step to the directory above. -/
def up : Text := ['.', '.']

/-- Whether a piece after the first one moves nowhere. -/
def isIdle (piece : Text) : Bool :=
  piece == [] || piece == stay

/-- The path without its last step, also without the idle pieces before and after that step.
The root directory and the empty path have no parent. -/
def parent? (p : Path) : Option Path :=
  match p.text.splitOn '/' with
  | [] => none
  | first :: body =>
    match body.reverse.dropWhile isIdle with
    | _ :: above =>
      let kept := (above.dropWhile isIdle).reverse
      if first = [] ∧ kept = [] then some ⟨['/']⟩
      else some ⟨['/'].intercalate (first :: kept)⟩
    | [] => if first = [] then none else some ⟨[]⟩

/-- The path and its parents one above the other, at most `n` of them. -/
def ancestorsWithin : Nat → Path → List Path
  | 0, _ => []
  | n + 1, p =>
    match p.parent? with
    | some above => p :: ancestorsWithin n above
    | none => [p]

/-- The path and all its parents, nearest first. Each is shorter than the one before. -/
def ancestors (p : Path) : List Path :=
  ancestorsWithin (p.text.length + 2) p

/-- One step in a list of directories from the root, where no directory is entered by a link. -/
def follow (names : List Text) (step : Text) : List Text :=
  if step = stay then names else if step = up then names.dropLast else names ++ [step]

/-- The same place as an absolute path without idle steps and steps upwards. -/
def resolved (p : Path) : Path :=
  ⟨match p.steps.foldl follow [] with
    | [] => ['/']
    | names => names.flatMap ('/' :: ·)⟩

example : join (ofString "a/") "b".toList = ofString "a/b" ∧ join (ofString "a") [] = ofString "a/" := by
  decide
example : (ofString "/a//./b/.").parent? = some (ofString "/a") := by decide
example : (ofString "//a").parent? = some (ofString "/") ∧ (ofString "/").parent? = none := by decide
example : (ofString "./a").parent? = some (ofString ".") ∧ (ofString "a").parent? = some (ofString "") := by
  decide
example : (ofString "/a/../b/./c").ancestors.map Path.text
    = ["/a/../b/./c", "/a/../b", "/a/..", "/a", "/"].map String.toList := by decide
example : (ofString "/a/b/../c/.").resolved = ofString "/a/c" := by decide

end Path

end Scaffold
