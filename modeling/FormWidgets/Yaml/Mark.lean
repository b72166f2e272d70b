import FormWidgets.Yaml.Tag

/-!
# Anchors and directives

The words that stand in front of a node or of a document, tags apart.
-/

namespace FormWidgets.Yaml

/-- The name of an anchor or an alias, after its indicator. -/
def anchorName? (glyphs : List Glyph) : Option (String × List Glyph) :=
  let name := charsWhile isNameChar glyphs
  let rest := skipWhile isNameChar glyphs
  let next := peek rest
  if name.isEmpty then none
  else if isGap next || ['?', ':', ',', ']', '}', '%', '@', '`'].contains next then
    some (String.ofList name, rest)
  else none

/-- A number of at most nine digits. -/
def versionNumber? (glyphs : List Glyph) : Option (Nat × List Glyph) := do
  let digits := charsWhile Char.isDigit glyphs
  if digits.length ≤ 9 then
    let value ← Text.natural? digits
    some (value, skipWhile Char.isDigit glyphs)
  else none

/-- What follows the name of a version directive. -/
def versionDirective? (glyphs : List Glyph) : Option (Token × List Glyph) := do
  let (major, rest) ← versionNumber? (skipWhile isBlank glyphs)
  match rest with
  | ⟨'.', _, _, _⟩ :: rest =>
      let (minor, rest) ← versionNumber? rest
      some (.versionDirective major minor, rest)
  | _ => none

/-- What follows the name of a tag directive. -/
def tagDirective? (glyphs : List Glyph) : Option (Token × List Glyph) := do
  let (handle, rest) ← tagHandle? (skipWhile isBlank glyphs)
  if (handle = ['!'] || isClosedHandle handle) && isBlank (peek rest) then
    let (start, rest) ← tagBytes? true (skipWhile isBlank rest)
    if !start.isEmpty && isGap (peek rest) then
      some (.tagDirective (String.ofList handle) (beforeZero start), rest)
    else none
  else none

/-- The glyphs after the rest of a line, which may hold a comment and nothing else. -/
def endOfLine? (glyphs : List Glyph) : Option (List Glyph) :=
  let rest := skipWhile isBlank glyphs
  let rest := if peek rest = '#' then skipWhile (fun char => !isBreakOrEnd char) rest else rest
  match rest with
  | glyph :: others =>
      if isBreak glyph.char then some others
      else if glyph.char = endMark then some rest
      else none
  | [] => some []

/-- A directive, from its percent sign to the end of its line. -/
def directive? (glyphs : List Glyph) : Option (Token × List Glyph) := do
  let start := glyphs.drop 1
  let name := String.ofList (charsWhile isNameChar start)
  let rest := skipWhile isNameChar start
  if isGap (peek rest) then
    let (token, rest) ←
      if name = "YAML" then versionDirective? rest
      else if name = "TAG" then tagDirective? rest
      else none
    let rest ← endOfLine? rest
    some (token, rest)
  else none

end FormWidgets.Yaml
