import FormWidgets.Widget.Binding

/-!
# Renderings

Everything that a bound widget shows in one context.  The providers are asked
one after the other, those that every widget has before those of its kind.
-/

namespace FormWidgets

/-- What every widget shows. -/
structure CommonRendering where
  id : String
  label : String
  help : Option String
  isEnabled : Bool
  style : Option WidgetStyle

/-- How the bound item is shown. -/
structure ItemRendering where
  id : String
  kind : String
  label : String
  iconPaths : List String

/-- What a reference shows. -/
structure ReferenceRendering where
  items : List Node
  item : ItemRendering
  owner : Option Node
  referenceKind : String
  candidates : List Node
  childCreation : List ChildCreation.Offer

/-- The icon of an item action, and whether the action is available. -/
structure ItemActionRendering where
  iconUrl : String
  precondition : Bool

/-- What a list shows. -/
structure ListRendering where
  items : List Value
  item : ItemRendering
  options : List Value
  isDeletable : Bool
  itemAction : Option ItemActionRendering

/-- What a widget shows that depends on its kind. -/
inductive DetailRendering where
  | reference (shown : ReferenceRendering)
  | containment (shown : ReferenceRendering) (many : Bool)
  | list (shown : ListRendering)
  | radio (candidates : List String) (value : String)
  | expression

/-- What a widget shows. -/
structure WidgetRendering where
  common : CommonRendering
  detail : DetailRendering

namespace Provider

/-- Ask a provider that may be missing. -/
def askOptional {Shown : Type} (context : Context) :
    Option (Provider Shown) → Action (Option Shown)
  | some provider => do
      let shown ← provider context
      pure (some shown)
  | none => pure none

end Provider

namespace CommonProviders

/-- Ask for what every widget shows. -/
def render (common : CommonProviders) (context : Context) : Action CommonRendering := do
  let id ← common.id context
  let label ← common.label context
  let help ← Provider.askOptional context common.help
  let isEnabled ← common.isEnabled context
  let style ← common.style context
  pure ⟨id, label, help, isEnabled, style⟩

end CommonProviders

namespace ItemProviders

/-- Ask how the bound item is shown. -/
def render (item : ItemProviders) (context : Context) : Action ItemRendering := do
  let id ← item.id context
  let kind ← item.kind context
  let label ← item.label context
  let iconPaths ← item.iconPaths context
  pure ⟨id, kind, label, iconPaths⟩

end ItemProviders

namespace ReferenceProviders

/-- Ask for what a reference shows. -/
def render (reference : ReferenceProviders) (context : Context) :
    Action ReferenceRendering := do
  let items ← reference.items context
  let item ← reference.item.render context
  let owner ← reference.owner context
  let referenceKind ← reference.referenceKind context
  let candidates ← reference.candidates context
  let childCreation ← reference.childCreation context
  pure ⟨items, item, owner, referenceKind, candidates, childCreation⟩

end ReferenceProviders

namespace BoundItemAction

/-- Ask for the icon and the availability of an action. -/
def render (action : BoundItemAction) : Provider ItemActionRendering := fun context => do
  let iconUrl ← action.iconUrl context
  let precondition ← action.precondition context
  pure ⟨iconUrl, precondition⟩

end BoundItemAction

namespace ListWidget

/-- Ask for what a list shows. -/
def render (list : ListWidget) (context : Context) : Action ListRendering := do
  let items ← list.items context
  let item ← list.item.render context
  let options ← list.options context
  let itemAction ← Provider.askOptional context (list.itemAction.map BoundItemAction.render)
  pure ⟨items, item, options, list.isDeletable, itemAction⟩

end ListWidget

namespace BoundDetail

/-- Ask for what depends on the kind of a widget. -/
def render (context : Context) : BoundDetail → Action DetailRendering
  | .monoReference widget => do
      let shown ← widget.reference.render context
      pure (.reference shown)
  | .multiReference widget => do
      let shown ← widget.reference.render context
      pure (.reference shown)
  | .containmentReference widget => do
      let shown ← widget.reference.render context
      let many ← widget.many context
      pure (.containment shown many)
  | .primitiveList widget => do
      let shown ← widget.render context
      pure (.list shown)
  | .primitiveRadio widget => do
      let candidates ← widget.candidates context
      let value ← widget.value context
      pure (.radio candidates value)
  | .languageExpression => pure .expression

end BoundDetail

namespace BoundWidget

/-- Ask for everything that a widget shows. -/
def render (widget : BoundWidget) (context : Context) : Action WidgetRendering := do
  let common ← widget.common.render context
  let detail ← widget.detail.render context
  pure ⟨common, detail⟩

end BoundWidget

end FormWidgets
