/-!
# Configuration values

The values that a configuration text holds.  Of scalars only texts are kept
apart: no setting is a number, a truth value or a point in time.

A table remembers how it came about, because that decides what may be added to
it later.
-/

namespace FormWidgets.Toml

/-- How a table came about. -/
inductive TableOrigin where
  /-- By a header of its own. -/
  | header
  /-- By the header of a table inside it. -/
  | implied
  /-- By a key with dots. -/
  | dotted
  /-- As a value, between braces. -/
  | inlined
deriving DecidableEq, Repr

/-- A value of a configuration text. -/
inductive Value where
  | text (content : String)
  /-- A number, a truth value or a point in time. -/
  | scalar
  | array (items : List Value)
  | table (origin : TableOrigin) (entries : List (String × Value))
  /-- Tables that one repeated header lists. -/
  | tables (items : List Value)

/-- The entries of a table. -/
abbrev Entries := List (String × Value)

namespace Entries

/-- The value under a key. -/
def find? (entries : Entries) (key : String) : Option Value :=
  (List.find? (fun entry => decide (entry.1 = key)) entries).map Prod.snd

/-- The entries with a value under a key, in place of an earlier one. -/
def put (entries : Entries) (key : String) (value : Value) : Entries :=
  if (find? entries key).isSome then
    entries.map fun entry => if entry.1 = key then (key, value) else entry
  else entries ++ [(key, value)]

end Entries

end FormWidgets.Toml
