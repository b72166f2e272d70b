import FormWidgets.Data.Outline
import FormWidgets.Style

/-!
# Written styles

The form of styles in documents.  Every field of a style may be left out; a
conditional style needs both of its fields.
-/

namespace FormWidgets

namespace WidgetStyle

/-- The names of the fields of a style, in order. -/
def fieldNames : List String :=
  ["backgroundColor", "foregroundColor", "fontSize", "italic", "bold", "underline",
    "strikeThrough"]

/-- What is read of a style. -/
def outline : Outline :=
  .ofFields fieldNames []

/-- A style as a record. -/
def toData (style : WidgetStyle) : Data :=
  .record
    [Data.optionalTextField "backgroundColor" style.backgroundColor,
      Data.optionalTextField "foregroundColor" style.foregroundColor,
      Data.field "fontSize" (.ofOption (fun size => .natural size.toNat) style.fontSize),
      Data.field "italic" (.bool style.italic),
      Data.field "bold" (.bool style.bold),
      Data.field "underline" (.bool style.underline),
      Data.field "strikeThrough" (.bool style.strikeThrough)]

/-- Read a style. -/
def ofData? (form : Notation) (data : Data) : Option WidgetStyle := do
  let fields ← data.fields? form fieldNames
  let optionalText (name : String) := fields.defaulted name none (Data.optional Data.text?)
  let flag (name : String) := fields.defaulted name false Data.bool?
  some
    { backgroundColor := ← optionalText "backgroundColor"
      foregroundColor := ← optionalText "foregroundColor"
      fontSize := ← fields.defaulted "fontSize" none (Data.optional Data.word?)
      italic := ← flag "italic"
      bold := ← flag "bold"
      underline := ← flag "underline"
      strikeThrough := ← flag "strikeThrough" }

end WidgetStyle

namespace ConditionalStyle

/-- The names of the fields of a conditional style, in order. -/
def fieldNames : List String :=
  ["condition", "style"]

/-- What is read of a conditional style. -/
def outline : Outline :=
  .ofFields ["condition"] [("style", WidgetStyle.outline)]

/-- A conditional style as a record. -/
def toData (style : ConditionalStyle) : Data :=
  .record
    [Data.textField "condition" style.condition, Data.field "style" style.style.toData]

/-- Read a conditional style. -/
def ofData? (form : Notation) (data : Data) : Option ConditionalStyle := do
  let fields ← data.fields? form fieldNames
  some
    { condition := ← fields.required "condition" Data.text?
      style := ← fields.required "style" (WidgetStyle.ofData? form) }

end ConditionalStyle

end FormWidgets
