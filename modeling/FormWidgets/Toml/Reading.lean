import FormWidgets.Toml.QuotedText
import FormWidgets.Toml.Table
import FormWidgets.Toml.Word

/-!
# Reading configuration texts

A text is a sequence of lines: headers of tables, keys with values, comments.
Only the values between brackets go over several lines.
-/

namespace FormWidgets.Toml

/-- A key with dots: the keys that lead to it, and the last one. -/
structure KeyPath where
  tables : List String
  key : String

/-- The keys of a path. -/
def KeyPath.toList (path : KeyPath) : List String :=
  path.tables ++ [path.key]

/-- Whether a character may stand in a key without quotes. -/
def isBareKeyChar (char : Char) : Bool :=
  char.isAlphanum || char = '_' || char = '-'

/-- Read one part of a key. -/
def keyPart? (chars : List Char) : Option (String × List Char) :=
  match quotedLine? chars with
  | some part => some part
  | none =>
      let name := chars.takeWhile isBareKeyChar
      if name.isEmpty then none
      else some (String.ofList name, chars.dropWhile isBareKeyChar)

/-- Read a key with dots; each step takes one part. -/
def keyPath? : Nat → List Char → Option (KeyPath × List Char)
  | 0, _ => none
  | steps + 1, chars => do
      let (part, rest) ← keyPart? (chars.dropWhile isSpace)
      match rest.dropWhile isSpace with
      | '.' :: rest =>
          let (path, rest) ← keyPath? steps rest
          some (⟨part :: path.tables, path.key⟩, rest)
      | rest => some (⟨[], part⟩, rest)

/-- The greatest number of parts of a key and of brackets around a value. -/
def nestingLimit : Nat := 80

/-- Read a key with dots that has not too many parts. -/
def key? (chars : List Char) : Option (KeyPath × List Char) :=
  (keyPath? (chars.length + 1) chars).filter fun (path, _) =>
    decide (path.toList.length < nestingLimit)

/-- Drop blanks, line breaks and comments between the items of an array. -/
def skipFiller? (inComment : Bool) : List Char → Option (List Char)
  | [] => some []
  | '\n' :: rest => skipFiller? false rest
  | '\r' :: '\n' :: rest => skipFiller? false rest
  | char :: rest =>
      if inComment then
        if isLineChar char then skipFiller? true rest else none
      else if isSpace char then skipFiller? false rest
      else if char = '#' then skipFiller? true rest
      else some (char :: rest)

/-- Drop the rest of a line, which may hold a comment and nothing else. -/
def endOfLine? (chars : List Char) : Option (List Char) :=
  let rest := chars.dropWhile isSpace
  let rest :=
    match rest with
    | '#' :: comment => comment.dropWhile isLineChar
    | rest => rest
  if rest.isEmpty then some [] else lineBreak? rest

mutual

/-- Read a value inside a number of brackets; each step takes a character or a part. -/
def value? (level : Nat) : Nat → List Char → Option (Value × List Char)
  | 0, _ => none
  | steps + 1, chars =>
      match chars with
      | '"' :: _ | '\'' :: _ =>
          (quotedText? chars).map fun (content, rest) => (.text content, rest)
      | '[' :: rest =>
          if level + 1 < nestingLimit then do
            let (items, rest) ← items? (level + 1) steps rest
            some (.array items, rest)
          else none
      | '\x7b' :: rest =>
          if level + 1 < nestingLimit then
            match rest.dropWhile isSpace with
            | '\x7d' :: rest => some (.table .inlined [], rest)
            | rest => do
                let (entries, rest) ← pairs? (level + 1) [] steps rest
                some (.table .inlined entries, rest)
          else none
      | chars => (skipScalarWord? chars).map fun rest => (.scalar, rest)

/-- Read the items of an array up to its end. -/
def items? (level : Nat) : Nat → List Char → Option (List Value × List Char)
  | 0, _ => none
  | steps + 1, chars => do
      match ← skipFiller? false chars with
      | ']' :: rest => some ([], rest)
      | chars =>
          let (item, rest) ← value? level steps chars
          match ← skipFiller? false rest with
          | ',' :: rest =>
              let (items, rest) ← items? level steps rest
              some (item :: items, rest)
          | ']' :: rest => some ([item], rest)
          | _ => none

/-- Read the pairs of a table between braces up to its end, after some that were read. -/
def pairs? (level : Nat) (entries : Entries) : Nat → List Char → Option (Entries × List Char)
  | 0, _ => none
  | steps + 1, chars => do
      let (path, rest) ← key? chars
      match rest with
      | '=' :: rest =>
          let (value, rest) ← value? level steps (rest.dropWhile isSpace)
          let entries ← entries.addDotted? path.tables path.key value .inlined
          match rest.dropWhile isSpace with
          | ',' :: rest => pairs? level entries steps rest
          | '\x7d' :: rest => some (entries, rest)
          | _ => none
      | _ => none

end

/-- The tables so far, and the path to the one that lines add to. -/
structure TextState where
  root : Entries := []
  path : List String := []

namespace TextState

/-- Add a value to the current table. -/
def add? (state : TextState) (path : KeyPath) (value : Value) : Option TextState := do
  let root ←
    state.root.changeAt? .header
      (fun origin entries => entries.addDotted? path.tables path.key value origin)
      state.path .header
  some { state with root := root }

/-- Start the table of a header. -/
def startTable? (state : TextState) (path : KeyPath) : Option TextState := do
  let root ← state.root.defineTable? path.tables path.key
  some ⟨root, path.toList⟩

/-- Start one more table of a repeated header. -/
def startRepeated? (state : TextState) (path : KeyPath) : Option TextState := do
  let root ← state.root.appendTable? path.tables path.key
  some ⟨root, path.toList⟩

end TextState

/-- Read a line from its first character that is no space on. -/
def line? (state : TextState) (chars : List Char) : Option (TextState × List Char) :=
  match chars with
  | '[' :: '[' :: rest => do
      let (path, rest) ← key? rest
      match rest with
      | ']' :: ']' :: rest =>
          let state ← state.startRepeated? path
          some (state, rest)
      | _ => none
  | '[' :: rest => do
      let (path, rest) ← key? rest
      match rest with
      | ']' :: rest =>
          let state ← state.startTable? path
          some (state, rest)
      | _ => none
  | chars => do
      let (path, rest) ← key? chars
      match rest with
      | '=' :: rest =>
          let (value, rest) ← value? 0 (2 * rest.length + 2) (rest.dropWhile isSpace)
          let state ← state.add? path value
          some (state, rest)
      | _ => none

/-- Read the lines of a text; each step takes one of them. -/
def lines? : Nat → TextState → List Char → Option TextState
  | 0, _, _ => none
  | steps + 1, state, chars =>
      match chars.dropWhile isSpace with
      | [] => some state
      | char :: rest => do
          let (state, rest) ←
            if char = '#' || (lineBreak? (char :: rest)).isSome then
              some (state, char :: rest)
            else line? state (char :: rest)
          let rest ← endOfLine? rest
          lines? steps state rest

/-- The entries of a configuration text; nothing when it is malformed. -/
def entries? (text : String) : Option Entries :=
  let chars :=
    match text.toList with
    | '\ufeff' :: rest => rest
    | chars => chars
  (lines? (chars.length + 1) {} chars).map TextState.root

end FormWidgets.Toml
