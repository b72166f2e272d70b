import FormWidgets.CandidateSearch
import FormWidgets.ChildCreation.Offer
import FormWidgets.Configuration
import FormWidgets.Style
import FormWidgets.Widget.Description

/-!
# Providers

What a bound widget shows.  A provider is asked with the evaluation context of
each rendering, so what it gives follows the context and the domain graph.
-/

namespace FormWidgets

/-- What a widget is bound to. -/
structure Binder where
  evaluator : Evaluator
  runner : OperationRunner
  objects : ObjectService
  registry : TypeRegistry
  evaluators : EvaluatorFactory
  links : ContainmentLinks
  configuration : Configuration := {}

/-- Gives one thing to show, for the context of a rendering. -/
abbrev Provider (Shown : Type) := Context → Action Shown

/-- What every widget shows. -/
structure CommonProviders where
  id : Provider String
  label : Provider String
  /-- Present when the description has a help expression that is not blank. -/
  help : Option (Provider String)
  isEnabled : Provider Bool
  style : Provider (Option WidgetStyle)

/-- How the value bound to `item` is shown. -/
structure ItemProviders where
  id : Provider String
  kind : Provider String
  label : Provider String
  iconPaths : Provider (List String)

/-- What the reference widgets show. -/
structure ReferenceProviders where
  items : Provider (List Node)
  item : ItemProviders
  owner : Provider (Option Node)
  /-- The qualified name of the referenced type, empty when there is none. -/
  referenceKind : Provider String
  candidates : Provider (List Node)
  childCreation : Provider (List ChildCreation.Offer)

/-- The expressions that the reference widgets show. -/
structure ReferenceExpressions where
  value : Option String
  owner : Option String
  type : Option String
  searchScope : Option String

namespace Binder

variable (binder : Binder)

/-- The search for candidates among the bound descriptions. -/
def candidateSearch : CandidateSearch where
  links := binder.links
  evaluators := binder.evaluators

/-- The places where elements can be created. -/
def catalogue : ChildCreation.Catalogue where
  registry := binder.registry
  objects := binder.objects
  scope := binder.configuration.subtypeScope

/-- The text of an expression. -/
def textProvider (expression : Option String) : Provider String := fun context =>
  binder.evaluator.text context expression

/-- The truth of an expression, with a default for none. -/
def truthProvider (expression : Option String) (default : Bool) : Provider Bool :=
  fun context => binder.evaluator.truth context expression default

/-- The nodes of an expression. -/
def nodesProvider (expression : Option String) : Provider (List Node) := fun context =>
  binder.evaluator.nodes context expression

/-- The values of an expression. -/
def valuesProvider (expression : Option String) : Provider (List Value) := fun context =>
  binder.evaluator.values context expression

/-- The id of a widget, with the identity of the displayed node when there is one. -/
def idProvider (widget : String) : Provider String := fun context =>
  pure (match context.selfNode? with
    | some node => widget ++ ":" ++ binder.objects.id node
    | none => widget)

/-- What every widget shows. -/
def commonProviders (description : WidgetDescription) : CommonProviders where
  id := binder.idProvider description.id
  label := binder.textProvider description.label
  help :=
    if Text.isBlank? description.help then none
    else some (binder.textProvider description.help)
  isEnabled := binder.truthProvider description.isEnabled true
  style := fun context =>
    WidgetStyle.select binder.evaluator context description.style
      description.conditionalStyles

/-- A text of the bound item: a node is presented by the object service, a scalar by itself. -/
def itemText (present : Node → String) : Provider String := fun context =>
  pure (match context.find? Variable.item with
    | some (.node node) => present node
    | some value => value.scalarText?.getD ""
    | none => "")

/-- Something about the bound item that only nodes have, with a default for all else. -/
def itemFact {Fact : Type} (present : Node → Fact) (default : Fact) : Provider Fact :=
  fun context =>
    pure (match context.find? Variable.item with
      | some (.node node) => present node
      | _ => default)

/-- How the value bound to `item` is shown. -/
def itemProviders : ItemProviders where
  id := itemText binder.objects.id
  kind := itemFact binder.objects.kind ""
  label := itemText binder.objects.label
  iconPaths := itemFact binder.objects.iconPaths []

/-- The owner of a reference: what its expression gives, or `self` when that is blank. -/
def ownerProvider (expression : Option String) : Provider (Option Node) := fun context =>
  if Text.isBlank? expression then pure context.selfNode?
  else do
    let answer ← binder.evaluator.evaluate? context expression
    pure answer.node?

/-- The qualified name of the type that an expression names, empty when it names none. -/
def referenceKindProvider (expression : Option String) : Provider String := fun context => do
  let answer ← binder.evaluator.evaluate? context expression
  match answer.text? with
  | none => pure ""
  | some typeName =>
      match binder.registry.resolve typeName with
      | .ok type => pure type.qualifiedName
      | .error error =>
          Action.logEvent
            (.note "reference kind unresolved" none [("error", error.message)])
          pure ""

/-- The nodes that a reference of the displayed node may point to. -/
def candidatesProvider (widget : String) (searchScope : Option String) :
    Provider (List Node) := fun context =>
  match context.selfNode? with
  | some target => binder.candidateSearch.find target searchScope widget
  | none => pure []

/-- The places where an element can be created under the owner. -/
def childCreationProvider (owner type : Option String) :
    Provider (List ChildCreation.Offer) := fun context => do
  match ← binder.ownerProvider owner context with
  | none => pure []
  | some node =>
      let referenceKind ← binder.referenceKindProvider type context
      if referenceKind.isEmpty then pure []
      else binder.catalogue.offers (binder.objects.kind node) referenceKind

/-- What the reference widgets show. -/
def referenceProviders (widget : String) (expressions : ReferenceExpressions) :
    ReferenceProviders where
  items := binder.nodesProvider expressions.value
  item := binder.itemProviders
  owner := binder.ownerProvider expressions.owner
  referenceKind := binder.referenceKindProvider expressions.type
  candidates := binder.candidatesProvider widget expressions.searchScope
  childCreation := binder.childCreationProvider expressions.owner expressions.type

/-- Whether an action on the bound item is available; a blank precondition always holds. -/
def preconditionProvider (expression : Option String) : Provider Bool := fun context =>
  if Text.isBlank? expression then pure true
  else binder.evaluator.truth context expression false

/-- The texts that a radio offers: nodes by their labels, scalars as they are, nothing else. -/
def radioTexts (values : List Value) : List String :=
  values.filterMap fun value =>
    match value with
    | .node node => some (binder.objects.label node)
    | scalar => scalar.scalarText?

/-- The texts that a radio offers. -/
def radioCandidatesProvider (expression : Option String) : Provider (List String) :=
  fun context => do
    let values ← binder.evaluator.values context expression
    pure (binder.radioTexts values)

end Binder

end FormWidgets
