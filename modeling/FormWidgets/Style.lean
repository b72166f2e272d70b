import FormWidgets.Collaborator

/-!
# Styles

The look of a widget is the style of its first conditional style whose
condition holds, else its default style.  Conditions are evaluated in order and
none after the first that holds.
-/

namespace FormWidgets

/-- How a widget looks; every part may be left open. -/
structure WidgetStyle where
  backgroundColor : Option String := none
  foregroundColor : Option String := none
  fontSize : Option UInt32 := none
  italic : Bool := false
  bold : Bool := false
  underline : Bool := false
  strikeThrough : Bool := false
deriving DecidableEq, Repr

/-- A style that applies when its condition holds. -/
structure ConditionalStyle where
  condition : String
  style : WidgetStyle
deriving DecidableEq, Repr

namespace WidgetStyle

/-- The style of the first condition that holds, else the default. -/
def select (evaluator : Evaluator) (context : Context) (default : Option WidgetStyle) :
    List ConditionalStyle → Action (Option WidgetStyle)
  | [] => pure default
  | candidate :: rest => do
      if ← evaluator.truth context (some candidate.condition) false then
        pure (some candidate.style)
      else
        select evaluator context default rest

end WidgetStyle

end FormWidgets
