import FormWidgets.Text.Numeral
import FormWidgets.Yaml.Glyph
import FormWidgets.Yaml.Token

/-!
# Tags

The words that say what kind of node follows them.  A tag is a list of bytes:
an escape writes any byte, and of escaped bytes it is only asked that their
first bits fit together as those of characters do.  What comes after a byte of
zero is not part of the tag.
-/

namespace FormWidgets.Yaml

/-- Whether a character may stand in a tag; brackets and commas may only inside angle brackets. -/
def isTagChar (verbatim : Bool) (char : Char) : Bool :=
  isNameChar char || ";/?:@&=+$.%!~*'()".toList.contains char
    || verbatim && [',', '[', ']'].contains char

/-- The value of a byte that is written as two hexadecimal digits. -/
def escapedByte? : List Char → Option (UInt8 × List Char)
  | '%' :: high :: low :: rest => do
      let high ← Text.hexDigitValue? high
      let low ← Text.hexDigitValue? low
      some (UInt8.ofNat (16 * high + low), rest)
  | _ => none

/-- The number of bytes that the first byte of a character announces. -/
def byteCount? (first : UInt8) : Option Nat :=
  if first < 0x80 then some 1
  else if 0xC0 ≤ first ∧ first < 0xE0 then some 2
  else if 0xE0 ≤ first ∧ first < 0xF0 then some 3
  else if 0xF0 ≤ first ∧ first < 0xF8 then some 4
  else none

/-- A number of escaped bytes that continue a character. -/
def continuationBytes? : Nat → List Char → Option (List UInt8 × List Char)
  | 0, chars => some ([], chars)
  | count + 1, chars => do
      let (byte, rest) ← escapedByte? chars
      if 0x80 ≤ byte ∧ byte < 0xC0 then
        let (others, rest) ← continuationBytes? count rest
        some (byte :: others, rest)
      else none

/-- The escaped bytes up to the number that the first one announces. -/
def escapedBytes? (chars : List Char) : Option (List UInt8 × List Char) := do
  let (first, rest) ← escapedByte? chars
  let count ← byteCount? first
  let (others, rest) ← continuationBytes? (count - 1) rest
  some (first :: others, rest)

/-- The bytes of characters, of which some are written as escapes; each step takes at least one. -/
def decodeEscapes? : Nat → List Char → Option (List UInt8)
  | _, [] => some []
  | 0, _ => none
  | steps + 1, char :: rest =>
      if char = '%' then do
        let (bytes, rest) ← escapedBytes? (char :: rest)
        let others ← decodeEscapes? steps rest
        some (bytes ++ others)
      else do
        let others ← decodeEscapes? steps rest
        some (String.utf8EncodeChar char ++ others)

/-- The bytes at the start that are written as those of a tag. -/
def tagBytes? (verbatim : Bool) (glyphs : List Glyph) : Option (List UInt8 × List Glyph) := do
  let chars := charsWhile (isTagChar verbatim) glyphs
  let bytes ← decodeEscapes? chars.length chars
  some (bytes, skipWhile (isTagChar verbatim) glyphs)

/-- The bytes in front of the first zero. -/
def beforeZero (bytes : List UInt8) : List UInt8 :=
  bytes.takeWhile (· ≠ 0)

/-- The handle of a tag: an exclamation mark, a name and perhaps a second mark. -/
def tagHandle? (glyphs : List Glyph) : Option (List Char × List Glyph) :=
  match glyphs with
  | ⟨'!', _, _, _⟩ :: rest =>
      let name := charsWhile isNameChar rest
      let rest := skipWhile isNameChar rest
      match rest with
      | ⟨'!', _, _, _⟩ :: rest => some ('!' :: name ++ ['!'], rest)
      | rest => some ('!' :: name, rest)
  | _ => none

/-- Whether a handle ends with a second mark. -/
def isClosedHandle (handle : List Char) : Bool :=
  decide (1 < handle.length) && handle.getLast? = some '!'

/-- A tag in angle brackets. -/
def verbatimTag? (glyphs : List Glyph) : Option (Token × List Glyph) := do
  let (bytes, rest) ← tagBytes? true (glyphs.drop 2)
  if bytes.isEmpty then none
  else
    match rest with
    | ⟨'>', _, _, _⟩ :: rest => some (.tag "" (beforeZero bytes), rest)
    | _ => none

/-- A tag with a handle; without a second mark the name belongs to what follows the handle. -/
def handledTag? (glyphs : List Glyph) : Option (Token × List Glyph) := do
  let (handle, rest) ← tagHandle? glyphs
  let (bytes, rest) ← tagBytes? false rest
  if isClosedHandle handle then
    if bytes.isEmpty then none
    else some (.tag (String.ofList handle) (beforeZero bytes), rest)
  else
    let suffix := beforeZero ((handle.drop 1).flatMap String.utf8EncodeChar ++ bytes)
    if suffix.isEmpty then some (.tag "" (String.utf8EncodeChar '!'), rest)
    else some (.tag "!" suffix, rest)

/-- A tag, which a blank, a line break or, among flow items, a comma must follow. -/
def tag? (inFlow : Bool) (glyphs : List Glyph) : Option (Token × List Glyph) := do
  let (token, rest) ←
    if peekAt 1 glyphs = '<' then verbatimTag? glyphs else handledTag? glyphs
  if isGap (peek rest) || (inFlow && peek rest = ',') then some (token, rest) else none

end FormWidgets.Yaml

namespace FormWidgets.Tag

/-- The tags of the known kinds of scalars. -/
def known : List (String × Tag) :=
  [("tag:yaml.org,2002:bool", .bool), ("tag:yaml.org,2002:int", .integer),
    ("tag:yaml.org,2002:float", .fraction), ("tag:yaml.org,2002:null", .null)]

/-- What the bytes of a tag say. -/
def ofBytes (bytes : List UInt8) : Tag :=
  match String.fromUTF8? (ByteArray.mk bytes.toArray) with
  | some text =>
      if text.startsWith "!" then .own
      else ((known.find? fun entry => entry.1 = text).map Prod.snd).getD .other
  | none =>
      if bytes.head? = (String.utf8EncodeChar '!').head? then .illegible else .other

end FormWidgets.Tag
