import FormWidgets.Text.Numeral

/-!
# Data

The tree that a document is read from.  In some notations a scalar says what it
is; in others it is written as plain text, and what it is follows from where it
stands.  Such a scalar stays in the tree as it is written until its place is
known.
-/

namespace FormWidgets

/-- How a scalar is marked off from what surrounds it. -/
inductive ScalarStyle where
  | plain
  | literal
  | folded
  | quoted
deriving DecidableEq, Repr

/-- What the tag in front of a part says about it. -/
inductive Tag where
  | bool
  | integer
  | fraction
  | null
  /-- A tag that a document makes up for itself. -/
  | own
  /-- A tag of a document's own that is no text. -/
  | illegible
  /-- Any other tag; a scalar under it is a text. -/
  | other
deriving DecidableEq, Repr

/-- A scalar as it is written, with the tag in front of it. -/
structure WrittenScalar where
  text : String
  style : ScalarStyle := .plain
  tag : Option Tag := none
deriving DecidableEq, Repr

/-- A tree of scalars, lists and records. -/
inductive Data where
  | null
  | bool (flag : Bool)
  | natural (value : Nat)
  /-- A number that is not a natural number; no place in a document takes one. -/
  | number
  | text (content : String)
  /-- A scalar whose meaning depends on its place. -/
  | written (scalar : WrittenScalar)
  | list (items : List Data)
  | record (entries : List (Data × Data))
  /-- A list or a record under a tag of its own. -/
  | labelled (content : Data)
  /-- A part that cannot be unfolded. -/
  | unreadable

instance : Inhabited Data where
  default := .null

/-- Which notation a tree comes from. -/
inductive Notation where
  /-- Scalars are written, records list their fields by name. -/
  | yaml
  /-- Scalars say what they are, and a record may be a list of its fields in order. -/
  | json
  /-- As in `json`, and fields and variants may also be named by their positions. -/
  | settled
deriving DecidableEq, Repr

namespace Data

/-- The absent part as null. -/
def ofOption {Part : Type} (write : Part → Data) : Option Part → Data
  | some part => write part
  | none => .null

/-- An entry of a record under a name. -/
def field (name : String) (value : Data) : Data × Data :=
  (.text name, value)

/-- An entry that holds a text. -/
def textField (name content : String) : Data × Data :=
  field name (.text content)

/-- An entry that holds a text or null. -/
def optionalTextField (name : String) (content : Option String) : Data × Data :=
  field name (ofOption .text content)

end Data

end FormWidgets
