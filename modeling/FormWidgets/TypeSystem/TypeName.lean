import FormWidgets.Text.Blank
import FormWidgets.Text.Cut

/-!
# Qualified type names

A type is named by a namespace and a simple name.  Two notations are read:
`namespace::Name`, and `namespace.Name` for texts without a double colon.
-/

namespace FormWidgets

/-- A namespace and a simple name in it. -/
structure TypeName where
  space : String
  name : String
deriving DecidableEq, Repr

namespace TypeName

/-- The text that names a type: namespace, double colon, simple name. -/
def text (typeName : TypeName) : String :=
  typeName.space ++ "::" ++ typeName.name

/-- The two parts of a name in either notation; neither part may be empty. -/
def parts? (chars : List Char) : Option (List Char × List Char) :=
  let separator := if Text.occursIn "::".toList chars then "::" else "."
  (Text.cutOnce? separator.toList chars).filter fun (space, name) =>
    !space.isEmpty && !name.isEmpty

/-- Read a type name, surrounding white space aside. -/
def parse? (text : String) : Option TypeName :=
  (parts? (Text.trimChars text.toList)).map fun (space, name) =>
    ⟨String.ofList space, String.ofList name⟩

end TypeName

end FormWidgets
