import FormWidgets.Yaml.Glyph

/-!
# Folding of lines

The text that blanks and line breaks between two words of a scalar stand for.
Blanks at the ends of lines are dropped; a single line break becomes a space,
and of several the first is dropped.
-/

namespace FormWidgets.Yaml

/-- The line breaks among characters. -/
def breaksOf (chars : List Char) : List Char :=
  chars.filter isBreak

/-- The text of blanks and line breaks between two words. -/
def foldGap (chars : List Char) : List Char :=
  match breaksOf chars with
  | [] => chars
  | ['\n'] => [' ']
  | '\n' :: others => others
  | breaks => breaks

/-- The text of blanks and line breaks after an escaped line break. -/
def foldContinued (chars : List Char) : List Char :=
  breaksOf chars

end FormWidgets.Yaml
