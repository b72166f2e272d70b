import FormWidgets.Data.Field

/-!
# Outlines

Which parts of a tree are read.  A reader that ignores a field never looks into
it, so what the field holds, even a part that lies within itself, is no concern
of the reader.  An outline says this before the tree is there.
-/

namespace FormWidgets

/-- What is read of a part of a tree. -/
inductive Outline where
  | nothing
  | everything
  /-- A list, and the same of each of its items. -/
  | items (item : Outline)
  /-- A record and its keys, and of its fields what their names ask for. -/
  | fields (named : List (String × Outline)) (others : Outline)

namespace Outline

/-- The outline of a record of which some fields are read wholly, some in part and the others not. -/
def ofFields (whole : List String) (inPart : List (String × Outline)) : Outline :=
  .fields (whole.map (·, .everything) ++ inPart) .nothing

/-- Whether anything is read. -/
def isRead : Outline → Bool
  | .nothing => false
  | _ => true

/-- What is read of the items of a list. -/
def ofItem : Outline → Outline
  | .everything => .everything
  | .items item => item
  | _ => .nothing

/-- What is read of the keys of a record. -/
def ofKey : Outline → Outline
  | .everything | .fields .. => .everything
  | _ => .nothing

/-- What is read of the value under a key of a record. -/
def ofValue (key : Data) : Outline → Outline
  | .everything => .everything
  | .fields named others =>
      match named.find? fun entry => key.text? = some entry.1 with
      | some (_, outline) => outline
      | none => others
  | _ => .nothing

end Outline

end FormWidgets
