/-!
# Contents of files

What reading the file at a path gives: a text, or the reason why there is none.
-/

namespace FormWidgets

/-- What a path leads to. -/
inductive FileContent where
  | missing
  | directory
  /-- The path goes through a file as if it were a directory. -/
  | beneathFile
  /-- The path, or the name of a file in it, is longer than one may be. -/
  | tooLong
  | bytes (content : ByteArray)

namespace FileContent

/-- The text of a file, or why there is none. -/
def text : FileContent → Except String String
  | .missing => .error "No such file or directory (os error 2)"
  | .directory => .error "Is a directory (os error 21)"
  | .beneathFile => .error "Not a directory (os error 20)"
  | .tooLong => .error "File name too long (os error 36)"
  | .bytes content =>
      match String.fromUTF8? content with
      | some text => .ok text
      | none => .error "stream did not contain valid UTF-8"

end FileContent

end FormWidgets
