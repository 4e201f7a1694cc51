import Scaffold.Text.Basic

namespace Scaffold.Text

/-- The form of one character in a JSON text. -/
def jsonChar (c : Char) : Text :=
  match c with
  | '"' => ['\\', '"']
  | '\\' => ['\\', '\\']
  | '\x08' => ['\\', 'b']
  | '\t' => ['\\', 't']
  | '\n' => ['\\', 'n']
  | '\x0c' => ['\\', 'f']
  | '\r' => ['\\', 'r']
  | c =>
    if c < ' ' then
      ['\\', 'u', '0', '0', Nat.digitChar (c.toNat / 16), Nat.digitChar (c.toNat % 16)]
    else [c]

/-- The JSON text. -/
def json (t : Text) : Text :=
  '"' :: t.flatMap jsonChar ++ ['"']

/-- The member of a JSON object. -/
def jsonMember (name value : Text) : Text :=
  "  ".toList ++ json name ++ ": ".toList ++ json value

/-- The JSON object with the given members. -/
def jsonObject (members : List (Text × Text)) : Text :=
  match members.mergeSort fun a b => notAfter a.1 b.1 with
  | [] => ['\x7b', '\x7d']
  | sorted =>
    let lines := sorted.map fun (name, value) => jsonMember name value
    "\x7b\n".toList ++ List.intercalate ",\n".toList lines ++ "\n\x7d".toList

example : json "é\"\\\n\x1f\x7f".toList = "\"é\\\"\\\\\\n\\u001f\x7f\"".toList := by decide

example : jsonObject [] = "\x7b\x7d".toList := by cbv

example : jsonObject [(['b'], ['1']), (['a'], [])] =
    "\x7b\n  \"a\": \"\",\n  \"b\": \"1\"\n\x7d".toList := by cbv

end Scaffold.Text
