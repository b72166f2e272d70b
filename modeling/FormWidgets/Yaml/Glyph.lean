/-!
# Glyphs

The characters of a text with the places they stand at.  The text is taken as a
list of lines: each line break counts as one glyph, whichever way it is
written, and a glyph of its own marks the end.
-/

namespace FormWidgets.Yaml

/-- A character with its line and its column, both counted from zero. -/
structure Glyph where
  char : Char
  line : Nat
  column : Nat
  /-- The number of bytes before it in its line. -/
  offset : Nat
deriving DecidableEq, Repr

/-- The character that marks the end of a text; no text holds it. -/
def endMark : Char := '\x00'

/-- The character that tells the encoding of a text; at the start of a line it counts as a space. -/
def orderMark : Char := '\ufeff'

/-- Whether a text may hold a character. -/
def isAllowed (char : Char) : Bool :=
  let code := char.toNat
  code = 0x9 || code = 0xA || code = 0xD || (0x20 ≤ code && code ≤ 0x7E) || code = 0x85
    || (0xA0 ≤ code && code ≤ 0xD7FF) || (0xE000 ≤ code && code ≤ 0xFFFD)
    || (0x10000 ≤ code && code ≤ 0x10FFFF)

/-- Write every line break as one character: a line feed, or a separator of its own kind. -/
def joinBreaks : List Char → List Char
  | '\r' :: '\n' :: rest => '\n' :: joinBreaks rest
  | '\r' :: rest => '\n' :: joinBreaks rest
  | '\u0085' :: rest => '\n' :: joinBreaks rest
  | char :: rest => char :: joinBreaks rest
  | [] => []

/-- Whether a character breaks a line. -/
def isBreak (char : Char) : Bool :=
  char = '\n' || char = '\u2028' || char = '\u2029'

/-- Whether a character may stand in a name. -/
def isNameChar (char : Char) : Bool :=
  char.isAlphanum || char = '_' || char = '-'

/-- Whether a character is a space or a tab. -/
def isBlank (char : Char) : Bool :=
  char = ' ' || char = '\t'

/-- Whether a character ends a line or the text. -/
def isBreakOrEnd (char : Char) : Bool :=
  isBreak char || char = endMark

/-- Whether a character ends a word: a blank, a line break or the end. -/
def isGap (char : Char) : Bool :=
  isBlank char || isBreakOrEnd char

/-- Characters with their places, from a place on. -/
def placed (line column offset : Nat) : List Char → List Glyph
  | [] => [⟨endMark, line, column, offset⟩]
  | char :: rest =>
      ⟨char, line, column, offset⟩ ::
        (if isBreak char then placed (line + 1) 0 0 rest
        else placed line (column + 1) (offset + char.utf8Size) rest)

/-- The glyphs of a text; nothing when it holds a character that is not allowed. -/
def glyphs? (text : String) : Option (List Glyph) :=
  if text.toList.all isAllowed then some (placed 0 0 0 (joinBreaks text.toList)) else none

/-- The character at the start of glyphs. -/
def peek : List Glyph → Char
  | glyph :: _ => glyph.char
  | [] => endMark

/-- The character after some others. -/
def peekAt (position : Nat) (glyphs : List Glyph) : Char :=
  peek (glyphs.drop position)

/-- Drop the glyphs at the start whose characters are of a class. -/
def skipWhile (holds : Char → Bool) (glyphs : List Glyph) : List Glyph :=
  glyphs.dropWhile fun glyph => holds glyph.char

/-- The characters at the start that are of a class. -/
def charsWhile (holds : Char → Bool) (glyphs : List Glyph) : List Char :=
  (glyphs.takeWhile fun glyph => holds glyph.char).map Glyph.char

/-- Whether a line starts with a mark that ends a document or starts one. -/
def startsDocumentMark (glyphs : List Glyph) : Bool :=
  let start := (glyphs.take 3).map Glyph.char
  (start = ['-', '-', '-'] || start = ['.', '.', '.'])
    && glyphs.head?.any (fun glyph => glyph.column = 0) && isGap (peekAt 3 glyphs)

end FormWidgets.Yaml
