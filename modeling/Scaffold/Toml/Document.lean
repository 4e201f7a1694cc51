import Scaffold.Text.Basic

/-!
A TOML document as it is written: its headers and its entries in order. Statements are not merged here
and a key may stand in two of them; that is for the reader of the document to judge. Numbers, truth
values and dates keep their written form, because no setting has such a value.
-/

namespace Scaffold.Toml

/-- A key with points is the list of its parts. -/
abbrev Key := List Text

/-- A value as it is written. -/
inductive Value where
  | text (t : Text)
  /-- A number, a truth value or a date. -/
  | bare (word : Text)
  | array (items : List Value)
  | table (entries : List (Key × Value))

/-- One statement of a document. -/
inductive Item where
  /-- The header of a table. -/
  | header (key : Key)
  /-- The header of one more table in an array of tables. -/
  | arrayHeader (key : Key)
  | entry (key : Key) (value : Value)

/-- The statements of a document in order. -/
abbrev Document := List Item

end Scaffold.Toml
