import FormWidgets.Text.Numeral
import FormWidgets.Yaml.Folding

/-!
# Quoted scalars

A scalar between single quotes writes a quote twice; one between double quotes
has escapes, among them an escaped line break, which joins two lines without a
space.
-/

namespace FormWidgets.Yaml

/-- The two sorts of quotes. -/
inductive QuoteStyle where
  | single
  | double
deriving DecidableEq, Repr

namespace QuoteStyle

/-- The character of a quote. -/
def mark : QuoteStyle → Char
  | .single => '\''
  | .double => '"'

end QuoteStyle

/-- The character of an escape of one letter. -/
def escapedLetter? (letter : Char) : Option Char :=
  match letter with
  | '0' => some '\x00'
  | 'a' => some '\x07'
  | 'b' => some '\x08'
  | 't' | '\t' => some '\t'
  | 'n' => some '\n'
  | 'v' => some '\x0b'
  | 'f' => some '\x0c'
  | 'r' => some '\r'
  | 'e' => some '\x1b'
  | ' ' => some ' '
  | '"' => some '"'
  | '/' => some '/'
  | '\\' => some '\\'
  | 'N' => some '\u0085'
  | '_' => some '\u00a0'
  | 'L' => some '\u2028'
  | 'P' => some '\u2029'
  | _ => none

/-- The number of digits of an escape of a code point. -/
def escapedDigits? (letter : Char) : Option Nat :=
  match letter with
  | 'x' => some 2
  | 'u' => some 4
  | 'U' => some 8
  | _ => none

/-- The character with a code point, which may not be a surrogate. -/
def charOfCode? (code : Nat) : Option Char :=
  if 0xD800 ≤ code ∧ code ≤ 0xDFFF ∨ 0x10FFFF < code then none else some (Char.ofNat code)

/-- The character that a number of digits stands for, and what follows them. -/
def escapedCode? (digits : Nat) (glyphs : List Glyph) : Option Char := do
  let chars := (glyphs.take digits).map Glyph.char
  if chars.length = digits then
    let code ← Text.based? 16 chars
    charOfCode? code
  else none

/-- Where the reading of a quoted scalar stands. -/
structure QuotedState where
  /-- The characters so far, in reverse. -/
  chars : List Char := []
  /-- The blanks and line breaks since the last word, in reverse. -/
  gap : List Char := []
  /-- Whether an escaped line break came before the gap. -/
  continued : Bool := false
  /-- The number of glyphs that an escape has already accounted for. -/
  skip : Nat := 0

namespace QuotedState

/-- The characters so far with the gap behind them, in reverse. -/
def charsWithGap (state : QuotedState) : List Char :=
  let gap := state.gap.reverse
  (if state.continued then foldContinued gap else foldGap gap).reverse ++ state.chars

/-- The state after a character of a word. -/
def add (state : QuotedState) (char : Char) (skip : Nat) : QuotedState where
  chars := char :: state.charsWithGap
  skip := skip

/-- The state after a character of a gap. -/
def addGap (state : QuotedState) (char : Char) : QuotedState :=
  { state with gap := char :: state.gap }

/-- The state after an escaped line break. -/
def continueLine (state : QuotedState) : QuotedState where
  chars := state.charsWithGap
  continued := true
  skip := 1

/-- The state after an escape that starts at given glyphs. -/
def escape? (state : QuotedState) (glyphs : List Glyph) : Option QuotedState :=
  let letter := peek glyphs
  if isBreak letter then some state.continueLine
  else
    match escapedDigits? letter with
    | some digits => do
        let char ← escapedCode? digits (glyphs.drop 1)
        some (state.add char (digits + 1))
    | none => (escapedLetter? letter).map fun char => state.add char 1

end QuotedState

/-- Read on up to the closing quote. -/
def quotedFrom? (quote : QuoteStyle) (state : QuotedState) :
    List Glyph → Option (List Char × List Glyph)
  | [] => none
  | glyph :: rest =>
      let char := glyph.char
      if 0 < state.skip then quotedFrom? quote { state with skip := state.skip - 1 } rest
      else if isBlank char || isBreak char then quotedFrom? quote (state.addGap char) rest
      else if startsDocumentMark (glyph :: rest) || char = endMark then none
      else if char = quote.mark then
        if quote = .single && peek rest = quote.mark then
          quotedFrom? quote (state.add char 1) rest
        else some (state.charsWithGap.reverse, rest)
      else if quote = .double && char = '\\' then
        match state.escape? rest with
        | some next => quotedFrom? quote next rest
        | none => none
      else quotedFrom? quote (state.add char 0) rest

/-- Read a quoted scalar from its opening quote on. -/
def quotedScalar? (quote : QuoteStyle) (glyphs : List Glyph) :
    Option (List Char × List Glyph) :=
  quotedFrom? quote {} (glyphs.drop 1)

end FormWidgets.Yaml
