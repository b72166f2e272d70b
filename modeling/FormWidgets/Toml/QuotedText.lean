import FormWidgets.Text.Numeral

/-!
# Quoted texts

Texts between quotes.  Double quotes allow escapes, single ones do not; three
quotes of either sort hold a text of several lines, of which a line break right
after the opening quotes is dropped.
-/

namespace FormWidgets.Toml

/-- Whether a character may stand in a line: a tab, or anything that is no control character. -/
def isLineChar (char : Char) : Bool :=
  char = '\t' || (decide (0x20 ≤ char.toNat) && char.toNat ≠ 0x7F)

/-- Whether a character is a space or a tab. -/
def isSpace (char : Char) : Bool :=
  char = ' ' || char = '\t'

/-- The character of an escape of one letter. -/
def escapedLetter? (letter : Char) : Option Char :=
  match letter with
  | 'b' => some '\x08'
  | 't' => some '\t'
  | 'n' => some '\n'
  | 'f' => some '\x0c'
  | 'r' => some '\r'
  | '"' => some '"'
  | '\\' => some '\\'
  | _ => none

/-- The character whose code point is written with so many digits. -/
def escapedCode? (digits : Nat) (chars : List Char) : Option Char := do
  let written := chars.take digits
  if written.length = digits then
    let code ← Text.based? 16 written
    if 0xD800 ≤ code ∧ code ≤ 0xDFFF ∨ 0x10FFFF < code then none else some (Char.ofNat code)
  else none

/-- The character of an escape, and the number of characters it takes after the backslash. -/
def escape? (chars : List Char) : Option (Char × Nat) :=
  match chars with
  | 'u' :: rest => (escapedCode? 4 rest).map fun char => (char, 5)
  | 'U' :: rest => (escapedCode? 8 rest).map fun char => (char, 9)
  | letter :: _ => (escapedLetter? letter).map fun char => (char, 1)
  | [] => none

/-- Read on in a text of one line up to its closing quote, after some characters to pass over. -/
def lineFrom? (quote : Char) (read : List Char) (skip : Nat) :
    List Char → Option (List Char × List Char)
  | [] => none
  | char :: rest =>
      if 0 < skip then lineFrom? quote read (skip - 1) rest
      else if char = quote then some (read.reverse, rest)
      else if quote = '"' && char = '\\' then
        match escape? rest with
        | some (escaped, length) => lineFrom? quote (escaped :: read) length rest
        | none => none
      else if isLineChar char then lineFrom? quote (char :: read) 0 rest
      else none

/-- The line break at the start of characters, and the rest. -/
def lineBreak? : List Char → Option (List Char)
  | '\n' :: rest => some rest
  | '\r' :: '\n' :: rest => some rest
  | _ => none

/-- The number of characters at the start that are spaces and line breaks. -/
def blankLength : List Char → Nat
  | ' ' :: rest | '\t' :: rest | '\n' :: rest => blankLength rest + 1
  | '\r' :: '\n' :: rest => blankLength rest + 2
  | _ => 0

/-- The number of characters from a backslash on that join two lines: spaces, a line break and all blanks after it. -/
def lineJoin? (chars : List Char) : Option Nat :=
  if (lineBreak? (chars.dropWhile isSpace)).isSome then some (blankLength chars) else none

/-- Read on in a text of several lines up to its closing quotes, after some characters to pass over. -/
def linesFrom? (quote : Char) (read : List Char) (skip : Nat) :
    List Char → Option (List Char × List Char)
  | [] => none
  | char :: rest =>
      if 0 < skip then linesFrom? quote read (skip - 1) rest
      else if char = quote then
        let count := (rest.takeWhile fun next => next = quote).length + 1
        if count < 3 then linesFrom? quote (char :: read) 0 rest
        else if count ≤ 5 then
          some ((List.replicate (count - 3) quote ++ read).reverse, rest.drop (count - 1))
        else none
      else if quote = '"' && char = '\\' then
        match lineJoin? rest with
        | some length => linesFrom? quote read length rest
        | none =>
            match escape? rest with
            | some (escaped, length) => linesFrom? quote (escaped :: read) length rest
            | none => none
      else if char = '\n' || isLineChar char then linesFrom? quote (char :: read) 0 rest
      else if char = '\r' && rest.head? = some '\n' then linesFrom? quote read 0 rest
      else none

/-- Read a quoted text of one line. -/
def quotedLine? : List Char → Option (String × List Char)
  | quote :: rest =>
      if quote = '"' || quote = '\'' then
        (lineFrom? quote [] 0 rest).map fun (chars, rest) => (String.ofList chars, rest)
      else none
  | [] => none

/-- Read a quoted text of one or several lines. -/
def quotedText? (chars : List Char) : Option (String × List Char) :=
  match chars with
  | first :: second :: third :: rest =>
      if (first = '"' || first = '\'') && second = first && third = first then
        let rest := (lineBreak? rest).getD rest
        (linesFrom? first [] 0 rest).map fun (chars, rest) => (String.ofList chars, rest)
      else quotedLine? chars
  | chars => quotedLine? chars

end FormWidgets.Toml
