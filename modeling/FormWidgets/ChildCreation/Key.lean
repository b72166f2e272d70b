import FormWidgets.Text.Cut

/-!
# Keys of child creations

A key names a place where an element can be created: the relation, a double
colon and the type.  Reading cuts at the first double colon, so the type may be
a qualified name.
-/

namespace FormWidgets.ChildCreation

/-- The characters between the two parts of a key. -/
def keySeparator : List Char := [':', ':']

/-- The characters of the key of a relation and a type. -/
def encodeChars (relation typeName : List Char) : List Char :=
  relation ++ keySeparator ++ typeName

/-- The relation and the type of the characters of a key; neither may be empty. -/
def decodeChars? (key : List Char) : Option (List Char × List Char) :=
  (Text.cut? keySeparator key).filter fun (relation, typeName) =>
    !relation.isEmpty && !typeName.isEmpty

/-- The key of a relation and a type. -/
def encodeKey (relation typeName : String) : String :=
  String.ofList (encodeChars relation.toList typeName.toList)

/-- The relation and the type that a key names. -/
def decodeKey? (key : String) : Option (String × String) :=
  (decodeChars? key.toList).map fun (relation, typeName) =>
    (String.ofList relation, String.ofList typeName)

end FormWidgets.ChildCreation
