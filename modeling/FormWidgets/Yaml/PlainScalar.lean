import FormWidgets.Yaml.Folding

/-!
# Plain scalars

A scalar without quotes runs until a colon before a gap, a comment, a line with
less indentation or a mark of a document; among flow items also until a comma
or a bracket.
-/

namespace FormWidgets.Yaml

/-- The brackets and the comma, which separate flow items. -/
def isFlowIndicator (char : Char) : Bool :=
  [',', '[', ']', '{', '}'].contains char

/-- A scalar that was read, the glyphs after it, and whether a line break came just before those. -/
structure PlainScalar where
  chars : List Char
  rest : List Glyph
  endsLine : Bool

/-- Whether a plain scalar ends before the word at a place that follows a gap. -/
def endsPlainLine (inFlow : Bool) (indent : Nat) (glyphs : List Glyph) : Bool :=
  startsDocumentMark glyphs || peek glyphs = '#'
    || !inFlow && glyphs.head?.any fun glyph => decide (glyph.column < indent)

/-- Whether a plain scalar ends before a character of a word. -/
def endsPlainWord (inFlow : Bool) (char next : Char) : Bool :=
  char = ':' && isGap next || inFlow && isFlowIndicator char

/-- Whether a colon stands where no plain scalar among flow items may hold one. -/
def isMisplacedColon (inFlow : Bool) (char next : Char) : Bool :=
  inFlow && char = ':' && (next = '?' || isFlowIndicator next)

/-- The scalar of characters and a gap behind them, both kept in reverse. -/
def PlainScalar.ending (chars gap : List Char) (rest : List Glyph) : PlainScalar where
  chars := chars.reverse
  rest := rest
  endsLine := gap.any isBreak

/-- Read on after some characters, kept in reverse, and a gap, kept in reverse. -/
def plainFrom? (inFlow : Bool) (indent : Nat) (chars gap : List Char) :
    List Glyph → Option PlainScalar
  | [] => some (.ending chars gap [])
  | glyph :: rest =>
      let char := glyph.char
      if char = endMark then some (.ending chars gap (glyph :: rest))
      else if isBlank char then
        if char = '\t' && gap.any isBreak && decide (glyph.column < indent) then none
        else plainFrom? inFlow indent chars (char :: gap) rest
      else if isBreak char then plainFrom? inFlow indent chars (char :: gap) rest
      else if !gap.isEmpty && endsPlainLine inFlow indent (glyph :: rest) then
        some (.ending chars gap (glyph :: rest))
      else if isMisplacedColon inFlow char (peek rest) then none
      else if endsPlainWord inFlow char (peek rest) then
        some (.ending chars gap (glyph :: rest))
      else
        plainFrom? inFlow indent (char :: (foldGap gap.reverse).reverse ++ chars) [] rest

/-- Read a plain scalar. -/
def plainScalar? (inFlow : Bool) (indent : Nat) (glyphs : List Glyph) : Option PlainScalar :=
  plainFrom? inFlow indent [] [] glyphs

end FormWidgets.Yaml
