import FormWidgets.Widget.Provider

/-!
# Scripted hosts

A host given by tables: what its expressions give, which edits it refuses and
what they leave for the user, and how its nodes are presented.  Such a host
needs no domain graph, so it serves to try descriptions out.
-/

namespace FormWidgets

namespace Edit

/-- The name by which a script looks an edit up: its feature, reference, node or own name. -/
def scriptKey : Edit → String
  | .create _ _ referenceName => referenceName
  | .set _ feature _ | .unset _ feature _ | .add _ feature _ _ | .remove _ feature _
  | .move _ feature _ _ | .clear _ feature => feature
  | .delete node => node.id
  | .custom name _ _ => name

/-- Whether an edit creates a node. -/
def isCreation : Edit → Bool
  | .create .. => true
  | _ => false

end Edit

/-- How a node is presented; what is left out follows from its id. -/
structure NodePresentation where
  id : Option String := none
  kind : Option String := none
  label : Option String := none
  iconPaths : Option (List String) := none

/-- The tables of a host. -/
structure HostScript where
  /-- What expressions give. -/
  answers : NameMap Value := NameMap.empty
  /-- What expressions give when `self` is a node. -/
  answersBySelf : NameMap (NameMap Value) := NameMap.empty
  /-- What expressions give to the evaluator of a view. -/
  answersByView : NameMap (NameMap Value) := NameMap.empty
  /-- What edits leave for the user. -/
  feedback : NameMap (List Message) := NameMap.empty
  /-- Why edits are refused. -/
  refusals : NameMap ErrorReport := NameMap.empty
  /-- How nodes are presented. -/
  nodes : NameMap NodePresentation := NameMap.empty

namespace HostScript

variable (script : HostScript)

/-- What an expression gives: by the view, by the node that `self` is, in general, or as a variable. -/
def answer (view : Option ViewRoot) (context : Context) (expression : String) : Answer :=
  let byView :=
    (view.bind fun view => script.answersByView.find? view.id).bind fun answers =>
      answers.find? expression
  let bySelf :=
    (context.selfNode?.bind fun node => script.answersBySelf.find? node.id).bind fun answers =>
      answers.find? expression
  ⟨byView <|> bySelf <|> script.answers.find? expression <|> context.find? expression⟩

/-- The evaluator that is made for a view, or the general one. -/
def evaluator (view : Option ViewRoot) : Evaluator where
  view := view
  answer := fun _ context expression => script.answer view context expression

/-- The evaluators of views. -/
def evaluators : EvaluatorFactory := fun view =>
  script.evaluator (some view)

/-- The number of creations among edits that are not refused. -/
def creationCount (edits : List Edit) : Nat :=
  edits.countP fun edit => edit.isCreation && !script.refusals.contains edit.scriptKey

/-- The edits of the host; a created node is named after its type and its number. -/
def editService : EditService where
  feedback := fun _ edit => (script.feedback.find? edit.scriptKey).getD []
  refusal := fun _ edit => script.refusals.find? edit.scriptKey
  created := fun edits _ typeName _ =>
    ⟨typeName ++ "-" ++ toString (script.creationCount edits + 1)⟩

/-- Something that the presentation of a node says, with a default. -/
def presented {Part : Type} (node : Node) (read : NodePresentation → Option Part)
    (default : Part) : Part :=
  ((script.nodes.find? node.id).bind read).getD default

/-- The presentation of nodes. -/
def objects : ObjectService where
  id := fun node => script.presented node NodePresentation.id ("id-" ++ node.id)
  kind := fun node => script.presented node NodePresentation.kind ""
  label := fun node => script.presented node NodePresentation.label ("Label " ++ node.id)
  iconPaths := fun node =>
    script.presented node NodePresentation.iconPaths ["icons/" ++ node.id ++ ".svg"]

end HostScript

end FormWidgets
