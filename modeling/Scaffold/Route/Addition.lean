import Scaffold.Failure
import Scaffold.Route.Names
import Scaffold.Route.RouteFile

/-!
Additions to existing files, as functions on their texts. Each of them finds out first whether what
it should add is there already, and then leaves the text alone. A binding goes before the last
closing brace of a route file, a handler behind the end of a controller file, and a registration
below the marker line of the registry file.
-/

namespace Scaffold

/-- The outcome of an addition. -/
inductive Addition where
  /-- The text with what was added. -/
  | applied (text : Text)
  /-- Nothing was added. -/
  | alreadyPresent
  deriving DecidableEq

/-- The text that an outcome leaves where `old` was. -/
def Addition.textOver (old : Text) : Addition → Text
  | applied text => text
  | alreadyPresent => old

namespace RouteFile

/-- The text with the statement on a line of its own before the last closing brace. -/
def spliced (t statement : Text) : Except Cause Text :=
  match t.cutAtLast '\x7d' with
  | none => .error .noClosingBrace
  | some (before, after) => .ok (before ++ '\t' :: statement ++ '\n' :: after)

/-- Adds the binding to a route file and brings the file into canonical form. -/
def addBinding (t : Text) (names : RouteNames) : Except Cause Addition :=
  if (ofText t).binds names.binding then .ok .alreadyPresent
  else (spliced t names.binding).map fun grown => .applied (canonical grown)

end RouteFile

namespace ControllerFile

/-- Whether a line of the text begins the definition of the handler. -/
def defines (t handler : Text) : Bool :=
  t.lines.any fun line => ("func ".toList ++ handler ++ ['(']).isPrefixOf line.trimStart

/-- Adds the stub to a controller file that does not define the handler yet. -/
def addStub (t handler stub : Text) : Addition :=
  if defines t handler then .alreadyPresent else .applied (t ++ '\n' :: stub)

end ControllerFile

namespace Registry

/-- The comment below which registrations are added. No addition ever puts it there. -/
def marker : Text := "// solidgo:register-routes".toList

/-- The text up to the end of the line where the first occurrence of the marker ends, and the rest. -/
def cutBelow (mark t : Text) : Option (Text × Text) :=
  (t.cutAtFirst mark).map fun (before, marked) =>
    let (line, below) := Text.cutAfterLine (marked.drop mark.length)
    (before ++ mark ++ line, below)

/-- The position in bytes below the line where the first occurrence of the marker ends. -/
def positionBelow (mark t : Text) : Except Cause Nat :=
  match cutBelow mark t with
  | none => .error (.noMarker mark)
  | some (above, _) => .ok above.byteSize

/-- Whether the character indents a line. -/
def isIndent (c : Char) : Bool :=
  c == ' ' || c == '\t'

/-- The indentation of the line that is cut into the end of `before` and the start of `after`. -/
def indentAt (before after : Text) : Text :=
  ((before.reverse.takeWhile (· ≠ '\n')).reverse ++ after).takeWhile isIndent

/-- The indentation of the line that holds the position in bytes. -/
def indentAtByte (t : Text) (n : Nat) : Text :=
  let (before, after) := t.cutAtByte n
  indentAt before after

/-- The indentation of the line where the first occurrence of the marker begins. -/
def markerIndent (t : Text) : Text :=
  match t.cutAtFirst marker with
  | some (before, after) => indentAt before after
  | none => []

/-- Whether the call stands on a line of its own. -/
def calls (t call : Text) : Bool :=
  t.lines.any fun line => line.trim == call

/-- Adds the registration below the marker line of a registry file. -/
def register (t : Text) (names : RouteNames) : Except Cause Addition :=
  match cutBelow marker t with
  | none => .error (.noMarker marker)
  | some (above, below) =>
    if calls t names.registration then .ok .alreadyPresent
    else
      let lineEnd := if above.getLast? = some '\n' then [] else ['\n']
      .ok (.applied (above ++ lineEnd ++ markerIndent t ++ names.registration ++ '\n' :: below))

end Registry

end Scaffold
