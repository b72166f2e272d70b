import FormWidgets.Yaml.Folding
import FormWidgets.Yaml.Mark

/-!
# Block scalars

A scalar that is marked off by indentation.  A literal block keeps its line
breaks; a folded one joins lines, except around lines that start with a blank.
-/

namespace FormWidgets.Yaml

/-- What becomes of the line breaks at the end of a block. -/
inductive Chomping where
  | strip
  | clip
  | keep
deriving DecidableEq, Repr

/-- What the header of a block says. -/
structure BlockHeader where
  chomping : Chomping := .clip
  /-- The indentation relative to what the block lies in. -/
  indentation : Option Nat := none
deriving DecidableEq, Repr

/-- The chomping that an indicator stands for. -/
def chomping? (char : Char) : Option Chomping :=
  if char = '+' then some .keep
  else if char = '-' then some .strip
  else none

/-- The indentation that a digit stands for; zero is refused. -/
def indentation? (char : Char) : Option Nat :=
  if '1' ≤ char ∧ char ≤ '9' then some (char.toNat - '0'.toNat) else none

/-- The header of a block, with its two indicators in either order. -/
def blockHeader? (glyphs : List Glyph) : Option (BlockHeader × List Glyph) :=
  let first := peek glyphs
  let second := peekAt 1 glyphs
  match chomping? first with
  | some chomping =>
      if !second.isDigit then some (⟨chomping, none⟩, glyphs.drop 1)
      else (indentation? second).map fun indentation =>
        (⟨chomping, some indentation⟩, glyphs.drop 2)
  | none =>
      if !first.isDigit then some ({}, glyphs)
      else (indentation? first).map fun indentation =>
        match chomping? second with
        | some chomping => (⟨chomping, some indentation⟩, glyphs.drop 2)
        | none => (⟨.clip, some indentation⟩, glyphs.drop 1)

/-- Line breaks, the greatest column at which one of their lines ended, and what follows. -/
structure EmptyLines where
  breaks : List Char
  width : Nat
  rest : List Glyph

/-- Read empty lines up to an indentation, or of any indentation while none is known; breaks are kept in reverse. -/
def emptyLinesFrom? (indent : Option Nat) (breaks : List Char) (width : Nat) :
    List Glyph → Option EmptyLines
  | [] => some ⟨breaks.reverse, width, []⟩
  | glyph :: rest =>
      let inIndent := indent.all fun indent => decide (glyph.column < indent)
      let width' := max width glyph.column
      if inIndent && glyph.char = ' ' then emptyLinesFrom? indent breaks width rest
      else if inIndent && glyph.char = '\t' then none
      else if isBreak glyph.char then
        emptyLinesFrom? indent (glyph.char :: breaks) width' rest
      else some ⟨breaks.reverse, width', glyph :: rest⟩

/-- The lines of a block that were read, with the line breaks not yet joined to them. -/
structure BlockState where
  /-- The characters so far, in reverse. -/
  chars : List Char := []
  lastBreak : List Char := []
  emptyBreaks : List Char := []
  startsBlank : Bool := false

namespace BlockState

/-- The characters so far with the line breaks before the next line, in reverse. -/
def joined (state : BlockState) (literal nextStartsBlank : Bool) : List Char :=
  let folds :=
    !literal && state.lastBreak.head? = some '\n' && !state.startsBlank && !nextStartsBlank
  let lineBreak :=
    if !folds then state.lastBreak
    else if state.emptyBreaks.isEmpty then [' ']
    else []
  (lineBreak ++ state.emptyBreaks).reverse ++ state.chars

/-- The line breaks that are kept at the end of a block. -/
def lastBreaks (state : BlockState) : Chomping → List Char
  | .strip => []
  | .clip => state.lastBreak
  | .keep => state.lastBreak ++ state.emptyBreaks

/-- The characters of a block whose end is reached. -/
def finish (state : BlockState) (chomping : Chomping) : List Char :=
  state.chars.reverse ++ state.lastBreaks chomping

end BlockState

/-- Read the lines of a block; each step takes one of them. -/
def blockLines? (literal : Bool) (indent : Nat) :
    Nat → BlockState → List Glyph → Option (BlockState × List Glyph)
  | 0, state, glyphs => some (state, glyphs)
  | steps + 1, state, glyphs =>
      match glyphs with
      | [] => some (state, [])
      | glyph :: _ =>
          if glyph.column = indent && glyph.char ≠ endMark then do
            let startsBlank := isBlank glyph.char
            let line := charsWhile (fun char => !isBreakOrEnd char) glyphs
            let rest := skipWhile (fun char => !isBreakOrEnd char) glyphs
            let lastBreak := ((rest.take 1).map Glyph.char).filter isBreak
            let empty ← emptyLinesFrom? (some indent) [] 0 (rest.drop lastBreak.length)
            let state : BlockState :=
              { chars := line.reverse ++ state.joined literal startsBlank
                lastBreak := lastBreak
                emptyBreaks := empty.breaks
                startsBlank := startsBlank }
            blockLines? literal indent steps state empty.rest
          else some (state, glyphs)

/-- Read a block scalar from its indicator on, inside a block of a given column if any. -/
def blockScalar? (literal : Bool) (outer : Option Nat) (glyphs : List Glyph) :
    Option (List Char × List Glyph) := do
  let (header, rest) ← blockHeader? (glyphs.drop 1)
  let rest ← endOfLine? rest
  let known := header.indentation.map fun indentation => outer.getD 0 + indentation
  let empty ← emptyLinesFrom? known [] 0 rest
  let least := (outer.map (· + 1)).getD 1
  let indent := known.getD (max empty.width (max least 1))
  let state : BlockState := { emptyBreaks := empty.breaks }
  let (state, rest) ← blockLines? literal indent empty.rest.length state empty.rest
  some (state.finish header.chomping, rest)

end FormWidgets.Yaml
