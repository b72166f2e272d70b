import FormWidgets.Text.Unprintable

/-!
# Quoted texts

A text between double quotes in which every character can be seen: quotes,
backslashes and unprintable characters are written as escapes.
-/

namespace FormWidgets.Text

/-- The code point of a character in hexadecimal digits between braces. -/
def codePointEscape (char : Char) : String :=
  "\\u\x7b" ++ String.ofList (Nat.toDigits 16 char.toNat) ++ "\x7d"

/-- How a character is written between quotes. -/
def quotedChar (char : Char) : String :=
  match char with
  | '"' => "\\\""
  | '\\' => "\\\\"
  | '\n' => "\\n"
  | '\r' => "\\r"
  | '\t' => "\\t"
  | '\x00' => "\\0"
  | other => if isUnprintable other then codePointEscape other else String.singleton other

/-- A text between quotes. -/
def quoted (text : String) : String :=
  "\"" ++ String.join (text.toList.map quotedChar) ++ "\""

end FormWidgets.Text
