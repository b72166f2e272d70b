import FormWidgets.Yaml.BlockScalar
import FormWidgets.Yaml.Mark
import FormWidgets.Yaml.PlainScalar
import FormWidgets.Yaml.QuotedScalar

/-!
# Token streams

Cutting a text into tokens.  That a word was a key shows only when a colon
follows it, so the place of each possible key is kept, one for every level of
brackets, and the tokens for it are put there later.
-/

namespace FormWidgets.Yaml

/-- A word that may turn out to be a key. -/
structure PossibleKey where
  /-- Whether the block would be broken if it were no key. -/
  isRequired : Bool
  /-- The number of tokens before it. -/
  position : Nat
  line : Nat
  column : Nat
  /-- The number of bytes before it in its line. -/
  offset : Nat

/-- Where the cutting of a text stands. -/
structure TokenStream where
  rest : List Glyph
  /-- The tokens so far, in reverse. -/
  tokens : List Token := []
  /-- The number of tokens so far. -/
  count : Nat := 0
  /-- The column of the innermost block, if there is one. -/
  indent : Option Nat := none
  /-- The columns of the blocks around it, innermost first. -/
  outerIndents : List (Option Nat) := []
  /-- The possible key at the current level of brackets. -/
  key : Option PossibleKey := none
  /-- The possible keys at the levels around it, one for each open bracket. -/
  outerKeys : List (Option PossibleKey) := []
  /-- Whether a key may start here. -/
  keyAllowed : Bool := true

namespace TokenStream

variable (stream : TokenStream)

/-- Whether a bracket is open. -/
def inFlow : Bool :=
  !stream.outerKeys.isEmpty

/-- The line of the next glyph. -/
def line : Nat :=
  (stream.rest.head?.map Glyph.line).getD 0

/-- The column of the next glyph. -/
def column : Nat :=
  (stream.rest.head?.map Glyph.column).getD 0

/-- The number of bytes before the next glyph in its line. -/
def offset : Nat :=
  (stream.rest.head?.map Glyph.offset).getD 0

/-- The stream with one more token. -/
def push (token : Token) : TokenStream :=
  { stream with tokens := token :: stream.tokens, count := stream.count + 1 }

/-- The stream with a token put behind a number of tokens. -/
def insertAt (position : Nat) (token : Token) : TokenStream :=
  let later := stream.count - position
  { stream with
    tokens := stream.tokens.take later ++ token :: stream.tokens.drop later
    count := stream.count + 1 }

/-- The stream without some glyphs. -/
def skip (count : Nat) : TokenStream :=
  { stream with rest := stream.rest.drop count }

/-- The stream without a possible key at the current level; a required one must not be lost. -/
def forgetKey? : Option TokenStream :=
  if stream.key.any PossibleKey.isRequired then none
  else some { stream with key := none }

/-- The stream with a possible key at the next glyph, if one may start here. -/
def noteKey? : Option TokenStream :=
  if stream.keyAllowed then do
    let stream ← stream.forgetKey?
    let key : PossibleKey :=
      { isRequired := !stream.inFlow && stream.indent = some stream.column
        position := stream.count
        line := stream.line
        column := stream.column
        offset := stream.offset }
    some { stream with key := some key }
  else some stream

/-- A possible key that a colon on this line and at most 1024 bytes on can still reach. -/
def stillPossible? (line offset : Nat) : Option PossibleKey → Option (Option PossibleKey)
  | none => some none
  | some key =>
      if key.line < line || key.offset + 1024 < offset then
        if key.isRequired then none else some none
      else some (some key)

/-- The stream without the possible keys that are out of reach. -/
def dropStaleKeys? : Option TokenStream := do
  let key ← stillPossible? stream.line stream.offset stream.key
  let outerKeys ← stream.outerKeys.mapM (stillPossible? stream.line stream.offset)
  some { stream with key := key, outerKeys := outerKeys }

/-- Close the blocks that lie deeper than a column: their number, and the blocks that stay open. -/
def closeDeeper (column : Option Nat) (indent : Option Nat) :
    List (Option Nat) → Nat × Option Nat × List (Option Nat)
  | [] => (0, indent, [])
  | outer :: others =>
      let isDeeper :=
        match indent, column with
        | some indent, some column => decide (column < indent)
        | some _, none => true
        | none, _ => false
      if isDeeper then
        let (count, rest) := closeDeeper column outer others
        (count + 1, rest)
      else (0, indent, outer :: others)

/-- The stream after the blocks that lie deeper than a column; all of them for no column. -/
def closeBlocks (column : Option Nat) : TokenStream :=
  if stream.inFlow then stream
  else
    let (count, indent, outerIndents) := closeDeeper column stream.indent stream.outerIndents
    { stream with
      tokens := List.replicate count .blockEnd ++ stream.tokens
      count := stream.count + count
      indent := indent
      outerIndents := outerIndents }

/-- The stream in a block that starts at a column, if that lies deeper than the block around it. -/
def openBlock (column position : Nat) (start : Token) : TokenStream :=
  if stream.inFlow || stream.indent.any (fun indent => decide (column ≤ indent)) then stream
  else
    { stream.insertAt position start with
      indent := some column
      outerIndents := stream.indent :: stream.outerIndents }

/-- The glyphs of the next token, and whether a key may start there. -/
def skipToToken (inFlow : Bool) (inComment keyAllowed : Bool) :
    List Glyph → List Glyph × Bool
  | [] => ([], keyAllowed)
  | glyph :: rest =>
      let char := glyph.char
      if isBreak char then skipToToken inFlow false (keyAllowed || !inFlow) rest
      else if char = endMark then (glyph :: rest, keyAllowed)
      else if inComment then skipToToken inFlow true keyAllowed rest
      else if char = '#' then skipToToken inFlow true keyAllowed rest
      else if char = ' ' || (char = '\t' && (inFlow || !keyAllowed))
          || (char = orderMark && glyph.column = 0) then
        skipToToken inFlow false keyAllowed rest
      else (glyph :: rest, keyAllowed)

/-- The stream at its next token. -/
def toNextToken? : Option TokenStream := do
  let (rest, keyAllowed) := skipToToken stream.inFlow false stream.keyAllowed stream.rest
  let stream ← { stream with rest := rest, keyAllowed := keyAllowed }.dropStaleKeys?
  some (stream.closeBlocks (some stream.column))

/-- Take the end of the text. -/
def finish? : Option (List Token) := do
  let stream ← (stream.closeBlocks none).forgetKey?
  some stream.tokens.reverse

/-- Take a directive. -/
def takeDirective? : Option TokenStream := do
  let stream ← (stream.closeBlocks none).forgetKey?
  let (token, rest) ← directive? stream.rest
  some { stream.push token with rest := rest, keyAllowed := false }

/-- Take a mark between documents. -/
def takeDocumentMark? (token : Token) : Option TokenStream := do
  let stream ← (stream.closeBlocks none).forgetKey?
  some { (stream.push token).skip 3 with keyAllowed := false }

/-- Take an opening bracket. -/
def openBracket? (token : Token) : Option TokenStream := do
  let stream ← stream.noteKey?
  some
    { (stream.push token).skip 1 with
      key := none
      outerKeys := stream.key :: stream.outerKeys
      keyAllowed := true }

/-- Take a closing bracket. -/
def closeBracket? (token : Token) : Option TokenStream := do
  let stream ← stream.forgetKey?
  let (key, outerKeys) :=
    match stream.outerKeys with
    | key :: others => (key, others)
    | [] => (none, [])
  some
    { (stream.push token).skip 1 with
      key := key
      outerKeys := outerKeys
      keyAllowed := false }

/-- Take a comma. -/
def takeComma? : Option TokenStream := do
  let stream ← stream.forgetKey?
  some { (stream.push .flowEntry).skip 1 with keyAllowed := true }

/-- The stream in a block at the next glyph, where an indicator of the block may only stand if a key may start there. -/
def openBlockHere? (start : Token) : Option TokenStream :=
  if stream.inFlow then some stream
  else if stream.keyAllowed then
    some (stream.openBlock stream.column stream.count start)
  else none

/-- Take the dash of an item. -/
def takeDash? : Option TokenStream := do
  let stream ← stream.openBlockHere? .blockSequenceStart
  let stream ← stream.forgetKey?
  some { (stream.push .blockEntry).skip 1 with keyAllowed := true }

/-- Take the question mark of a key. -/
def takeKeyMark? : Option TokenStream := do
  let stream ← stream.openBlockHere? .blockMappingStart
  let stream ← stream.forgetKey?
  some { (stream.push .key).skip 1 with keyAllowed := !stream.inFlow }

/-- Take the colon of a value, which makes a possible key a key. -/
def takeColon? : Option TokenStream :=
  match stream.key with
  | some key =>
      let stream :=
        (stream.insertAt key.position .key).openBlock key.column key.position
          .blockMappingStart
      some { (stream.push .value).skip 1 with key := none, keyAllowed := false }
  | none => do
      let stream ← stream.openBlockHere? .blockMappingStart
      some { (stream.push .value).skip 1 with keyAllowed := !stream.inFlow }

/-- Take a token that may start a key, with the glyphs after it. -/
def takeWord? (read : List Glyph → Option (Token × List Glyph)) : Option TokenStream := do
  let stream ← stream.noteKey?
  let (token, rest) ← read stream.rest
  some { stream.push token with rest := rest, keyAllowed := false }

/-- Take a block scalar. -/
def takeBlockScalar? (style : ScalarStyle) : Option TokenStream := do
  let stream ← stream.forgetKey?
  let (chars, rest) ← blockScalar? (style = .literal) stream.indent stream.rest
  some
    { stream.push (.scalar (String.ofList chars) style) with
      rest := rest
      keyAllowed := true }

/-- Take a quoted scalar. -/
def takeQuotedScalar? (quote : QuoteStyle) : Option TokenStream :=
  stream.takeWord? fun glyphs => do
    let (chars, rest) ← quotedScalar? quote glyphs
    some (.scalar (String.ofList chars) .quoted, rest)

/-- Take a plain scalar. -/
def takePlainScalar? : Option TokenStream := do
  let stream ← stream.noteKey?
  let least := (stream.indent.map (· + 1)).getD 0
  let scalar ← plainScalar? stream.inFlow least stream.rest
  some
    { stream.push (.scalar (String.ofList scalar.chars) .plain) with
      rest := scalar.rest
      keyAllowed := scalar.endsLine }

/-- Whether a plain scalar can start with a character before another one. -/
def startsPlainScalar (inFlow : Bool) (char next : Char) : Bool :=
  !(isGap char || "-?:,[]\x7b\x7d#&*!|>'\"%@`".toList.contains char)
    || (char = '-' && !isBlank next)
    || (!inFlow && (char = '?' || char = ':') && !isGap next)

/-- Take the token that starts at the next glyph. -/
def takeToken? : Option TokenStream :=
  let char := peek stream.rest
  let next := peekAt 1 stream.rest
  if stream.column = 0 && char = '%' then stream.takeDirective?
  else if startsDocumentMark stream.rest then
    stream.takeDocumentMark? (if char = '-' then .documentStart else .documentEnd)
  else if char = '[' then stream.openBracket? .flowSequenceStart
  else if char = '\x7b' then stream.openBracket? .flowMappingStart
  else if char = ']' then stream.closeBracket? .flowSequenceEnd
  else if char = '\x7d' then stream.closeBracket? .flowMappingEnd
  else if char = ',' then stream.takeComma?
  else if char = '-' && isGap next then stream.takeDash?
  else if char = '?' && (stream.inFlow || isGap next) then stream.takeKeyMark?
  else if char = ':' && (stream.inFlow || isGap next) then stream.takeColon?
  else if char = '*' then
    stream.takeWord? fun glyphs =>
      (anchorName? (glyphs.drop 1)).map fun (name, rest) => (.alias name, rest)
  else if char = '&' then
    stream.takeWord? fun glyphs =>
      (anchorName? (glyphs.drop 1)).map fun (name, rest) => (.anchor name, rest)
  else if char = '!' then stream.takeWord? (tag? stream.inFlow)
  else if char = '|' && !stream.inFlow then stream.takeBlockScalar? .literal
  else if char = '>' && !stream.inFlow then stream.takeBlockScalar? .folded
  else if char = '\'' then stream.takeQuotedScalar? .single
  else if char = '"' then stream.takeQuotedScalar? .double
  else if startsPlainScalar stream.inFlow char next then stream.takePlainScalar?
  else none

/-- Cut the rest of the text; each step takes one token. -/
def cut? : Nat → TokenStream → Option (List Token)
  | 0, _ => none
  | steps + 1, stream => do
      let stream ← stream.toNextToken?
      if peek stream.rest = endMark then stream.finish?
      else
        let stream ← stream.takeToken?
        cut? steps stream

end TokenStream

/-- The tokens of a text. -/
def tokens? (text : String) : Option (List Token) := do
  let glyphs ← glyphs? text
  TokenStream.cut? (glyphs.length + 1) { rest := glyphs }

end FormWidgets.Yaml
