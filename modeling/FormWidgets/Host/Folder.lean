import FormWidgets.FileContent
import FormWidgets.NameMap

/-!
# Folders of texts

A folder with files and no folders inside it, and what the paths from it lead
to.  Of the folders around it nothing is known but that they are there.
-/

namespace FormWidgets

/-- The texts of files by their names. -/
abbrev Folder := NameMap String

namespace Folder

/-- The number of bytes that the name of a file may have. -/
def nameLimit : Nat := 255

/-- The number of bytes that a path may have. -/
def pathLimit : Nat := 4095

/-- What the name of no file leads to. -/
def absent (name : String) : FileContent :=
  if nameLimit < name.utf8ByteSize then .tooLong else .missing

/-- What the parts of a path lead to from a folder of which nothing is known. -/
def followOutside : List String → FileContent
  | [] => .directory
  | name :: rest => if name = "." || name = ".." then followOutside rest else absent name

/-- What the parts of a path from the folder lead to. -/
def follow (folder : Folder) : List String → FileContent
  | [] => .directory
  | "." :: rest => follow folder rest
  | ".." :: rest => followOutside rest
  | name :: rest =>
      match folder.find? name with
      | none => absent name
      | some text => if rest.isEmpty then .bytes text.toUTF8 else .beneathFile

/-- What a path leads to; a slash at its end asks for a folder. -/
def read (folder : Folder) (path : String) : FileContent :=
  let parts := (path.splitOn "/").filter fun part => !part.isEmpty
  if pathLimit < path.utf8ByteSize then .tooLong
  else if path.startsWith "/" then followOutside parts
  else follow folder (if path.endsWith "/" then parts ++ ["."] else parts)

end Folder

end FormWidgets
