import FormWidgets.Proofs.Execution.Evaluated
import FormWidgets.Proofs.Widget.GestureRouting

/-!
# Blank expressions

What a widget shows, the choice of a style and the search for candidates go
through readings of an expression that skip a blank one: it is not evaluated, and
it counts as an absent one.  A run of operations evaluates the expressions of an
operation as they are written, blank or not.

The main statement says both, and for a run when a blank expression is evaluated:
exactly when an operation is reached that asks for one.
-/

namespace FormWidgets

/-- An expression, unless it is blank. -/
def Text.unlessBlank (expression : Option String) : Option String :=
  if isBlank? expression then none else expression

/-- What takes a blank expression for none does not tell whether it is left out. -/
theorem Text.apply_unlessBlank {Result : Sort _} (read : Option String → Result)
    {expression : Option String} (skips : isBlank? expression = true → read expression = read none) :
    read (unlessBlank expression) = read expression := by
  rw [unlessBlank]
  split
  · rename_i blank
    exact (skips blank).symm
  · rfl

theorem Text.isBlank?_unlessBlank (expression : Option String) :
    isBlank? (unlessBlank expression) = isBlank? expression :=
  apply_unlessBlank isBlank? id

/-- An action evaluates no blank expression. -/
def Action.SkipsBlank {Result : Type} (action : Action Result) : Prop :=
  MakesOnly (fun evaluation => Text.isBlank evaluation.expression = false) action

/-! ## Readings of an expression -/

namespace Evaluator

variable (evaluator : Evaluator) {context : Context} {expression : Option String}

theorem evaluate?_of_blank (context : Context) (blank : Text.isBlank? expression = true) :
    evaluator.evaluate? context expression = pure .absent := by
  cases expression with
  | none => rfl
  | some text => exact if_pos blank

theorem evaluate?_unlessBlank (context : Context) (expression : Option String) :
    evaluator.evaluate? context (Text.unlessBlank expression) =
      evaluator.evaluate? context expression :=
  Text.apply_unlessBlank (evaluator.evaluate? context) (evaluator.evaluate?_of_blank context)

theorem skipsBlank_evaluate? (context : Context) (expression : Option String) :
    Action.SkipsBlank (evaluator.evaluate? context expression) := by
  cases expression with
  | none => exact Action.makesOnly_pure _
  | some text =>
      rw [evaluate?]
      split
      · exact Action.makesOnly_pure _
      · rename_i visible
        exact Action.makesOnly_evaluate (Bool.eq_false_iff.mpr visible)

/-- What reads the answer to an expression evaluates no blank one. -/
theorem skipsBlank_reading {Result : Type} (read : Answer → Result) (context : Context)
    (expression : Option String) :
    Action.SkipsBlank
      (evaluator.evaluate? context expression >>= fun answer => pure (read answer)) :=
  (evaluator.skipsBlank_evaluate? context expression).bind fun _ => Action.makesOnly_pure _

/-- A blank expression reads as no text, as the default, as no nodes and as no values. -/
structure ReadsAsAbsent (context : Context) (expression : Option String) : Prop where
  answer : evaluator.evaluate? context expression = pure .absent
  text : evaluator.text context expression = pure ""
  truth : ∀ default, evaluator.truth context expression default = pure default
  nodes : evaluator.nodes context expression = pure []
  values : evaluator.values context expression = pure []

theorem readsAsAbsent_of_blank (context : Context) (blank : Text.isBlank? expression = true) :
    evaluator.ReadsAsAbsent context expression := by
  have absent := evaluator.evaluate?_of_blank context blank
  constructor
  case answer => exact absent
  case text =>
    rw [text, absent]
    rfl
  case truth =>
    intro default
    rw [truth, absent]
    rfl
  case nodes =>
    rw [nodes, absent]
    rfl
  case values =>
    rw [values, absent]
    rfl

end Evaluator

/-! ## Styles and candidates -/

/-- The conditional styles whose condition is not blank. -/
def ConditionalStyle.withCondition (styles : List ConditionalStyle) : List ConditionalStyle :=
  styles.filter fun style => !Text.isBlank style.condition

namespace WidgetStyle

variable (evaluator : Evaluator) (context : Context) (default : Option WidgetStyle)

theorem skipsBlank_select (styles : List ConditionalStyle) :
    Action.SkipsBlank (select evaluator context default styles) := by
  induction styles with
  | nil => exact Action.makesOnly_pure default
  | cons style rest step =>
      refine (evaluator.skipsBlank_reading _ context (some style.condition)).bind fun holds => ?_
      split
      · exact Action.makesOnly_pure _
      · exact step

/-- A style whose condition is blank is never chosen. -/
theorem select_withCondition (styles : List ConditionalStyle) :
    select evaluator context default (ConditionalStyle.withCondition styles) =
      select evaluator context default styles := by
  induction styles with
  | nil => rfl
  | cons style rest step =>
      cases blank : Text.isBlank style.condition with
      | true =>
          have isBlank : Text.isBlank? (some style.condition) = true := blank
          have unmet := (evaluator.readsAsAbsent_of_blank context isBlank).truth false
          rw [ConditionalStyle.withCondition, List.filter_cons_of_neg (by simp [blank]), select,
            unmet]
          exact step
      | false =>
          rw [ConditionalStyle.withCondition, List.filter_cons_of_pos (by simp [blank]), select,
            select]
          exact congrArg _ (funext fun holds => by rw [← step]; rfl)

end WidgetStyle

namespace CandidateSearch

variable (search : CandidateSearch) (target : Node) (searchScope : Option String) (id : String)

theorem find_of_blank {searchScope : Option String} (blank : Text.isBlank? searchScope = true) :
    search.find target searchScope id = pure [] := by
  cases searchScope with
  | none => rfl
  | some text => rw [find, Option.filter_some_neg (by simpa using blank)]

theorem find_unlessBlank :
    search.find target (Text.unlessBlank searchScope) id = search.find target searchScope id :=
  Text.apply_unlessBlank (fun searchScope => search.find target searchScope id)
    fun blank => search.find_of_blank target id blank

theorem skipsBlank_find : Action.SkipsBlank (search.find target searchScope id) := by
  rw [find]
  cases given : searchScope.filter fun expression => !Text.isBlank expression with
  | none => exact Action.makesOnly_pure _
  | some expression =>
      have visible : Text.isBlank expression = false := by
        simpa using (Option.filter_eq_some_iff.mp given).2
      have finished : ∀ found : List Node, Action.SkipsBlank (do
          Action.logEvent (.finish (some .candidateSearch) "find_candidates" none none
            [("candidate_count", toString found.length)])
          pure found) :=
        fun found => (Action.makesOnly_logEvent _).bind fun _ => Action.makesOnly_pure found
      refine (Action.makesOnly_logEvent _).bind fun _ => ?_
      cases search.links.owningView? id with
      | none => exact (Action.makesOnly_logEvent _).bind fun _ => finished []
      | some view =>
          refine (Action.makesOnly_request _ view).bind fun evaluator => ?_
          exact (Action.makesOnly_evaluate visible).bind fun answer => finished answer.nodes

end CandidateSearch

/-! ## Providers -/

/-- A statement about a provider, whatever the provider shows. -/
abbrev ProviderProperty := ∀ {Shown : Type}, Provider Shown → Prop

/-- Asked in any context, a provider evaluates no blank expression. -/
def Provider.SkipsBlank {Shown : Type} (provider : Provider Shown) : Prop :=
  ∀ context, Action.SkipsBlank (provider context)

structure CommonProviders.Each (holds : ProviderProperty) (common : CommonProviders) : Prop where
  id : holds common.id
  label : holds common.label
  help : ∀ help ∈ common.help, holds help
  isEnabled : holds common.isEnabled
  style : holds common.style

structure ItemProviders.Each (holds : ProviderProperty) (item : ItemProviders) : Prop where
  id : holds item.id
  kind : holds item.kind
  label : holds item.label
  iconPaths : holds item.iconPaths

structure ReferenceProviders.Each (holds : ProviderProperty) (reference : ReferenceProviders) :
    Prop where
  items : holds reference.items
  item : reference.item.Each holds
  owner : holds reference.owner
  referenceKind : holds reference.referenceKind
  candidates : holds reference.candidates
  childCreation : holds reference.childCreation

structure BoundItemAction.Each (holds : ProviderProperty) (action : BoundItemAction) : Prop where
  iconUrl : holds action.iconUrl
  precondition : holds action.precondition

structure ListWidget.Each (holds : ProviderProperty) (list : ListWidget) : Prop where
  items : holds list.items
  item : list.item.Each holds
  options : holds list.options
  itemAction : ∀ action ∈ list.itemAction, action.Each holds

/-- Every provider of a kind of widget has a property. -/
inductive BoundDetail.Each (holds : ProviderProperty) : BoundDetail → Prop where
  | monoReference {widget : MonoReferenceWidget} (reference : widget.reference.Each holds) :
      Each holds (.monoReference widget)
  | multiReference {widget : MultiReferenceWidget} (reference : widget.reference.Each holds) :
      Each holds (.multiReference widget)
  | containmentReference {widget : ContainmentWidget}
      (reference : widget.reference.Each holds) (many : holds widget.many) :
      Each holds (.containmentReference widget)
  | primitiveList {widget : ListWidget} (list : widget.Each holds) :
      Each holds (.primitiveList widget)
  | primitiveRadio {widget : RadioWidget} (candidates : holds widget.candidates)
      (value : holds widget.value) : Each holds (.primitiveRadio widget)
  | languageExpression : Each holds .languageExpression

/-- Every provider of a widget has a property. -/
structure BoundWidget.Each (holds : ProviderProperty) (widget : BoundWidget) : Prop where
  common : widget.common.Each holds
  detail : widget.detail.Each holds

theorem ChildCreation.Catalogue.skipsBlank_offers (catalogue : Catalogue)
    (kind referenceKind : String) :
    Action.SkipsBlank (catalogue.offers kind referenceKind) := by
  apply Action.makesOnly_of_unchanged
  intro session
  rw [offers]
  rcases catalogue.registry.resolve kind with error | container
  · rcases catalogue.registry.resolve referenceKind with failure | reference
    · rfl
    · rfl
  · rcases catalogue.registry.resolve referenceKind with failure | reference
    · rfl
    · rfl

namespace Binder

variable (binder : Binder) (expression : Option String)

theorem skipsBlank_textProvider : (binder.textProvider expression).SkipsBlank :=
  fun context => binder.evaluator.skipsBlank_reading _ context expression

theorem skipsBlank_truthProvider (default : Bool) :
    (binder.truthProvider expression default).SkipsBlank :=
  fun context => binder.evaluator.skipsBlank_reading _ context expression

theorem skipsBlank_nodesProvider : (binder.nodesProvider expression).SkipsBlank :=
  fun context => binder.evaluator.skipsBlank_reading _ context expression

theorem skipsBlank_valuesProvider : (binder.valuesProvider expression).SkipsBlank :=
  fun context => binder.evaluator.skipsBlank_reading _ context expression

theorem skipsBlank_ownerProvider : (binder.ownerProvider expression).SkipsBlank := by
  intro context
  rw [ownerProvider]
  split
  · exact Action.makesOnly_pure _
  · exact binder.evaluator.skipsBlank_reading _ context expression

theorem skipsBlank_referenceKindProvider :
    (binder.referenceKindProvider expression).SkipsBlank := by
  intro context
  refine (binder.evaluator.skipsBlank_evaluate? context expression).bind fun answer => ?_
  cases answer.text? with
  | none => exact Action.makesOnly_pure _
  | some text =>
      dsimp only
      cases binder.registry.resolve text with
      | ok type => exact Action.makesOnly_pure _
      | error error => exact (Action.makesOnly_logEvent _).bind fun _ => Action.makesOnly_pure _

theorem skipsBlank_candidatesProvider (widget : String) :
    (binder.candidatesProvider widget expression).SkipsBlank := by
  intro context
  rw [candidatesProvider]
  cases context.selfNode? with
  | none => exact Action.makesOnly_pure _
  | some target => exact binder.candidateSearch.skipsBlank_find target expression widget

theorem skipsBlank_childCreationProvider (owner : Option String) :
    (binder.childCreationProvider owner expression).SkipsBlank := by
  intro context
  refine (binder.skipsBlank_ownerProvider owner context).bind fun found => ?_
  cases found with
  | none => exact Action.makesOnly_pure _
  | some node =>
      refine (binder.skipsBlank_referenceKindProvider expression context).bind fun kind => ?_
      split
      · exact Action.makesOnly_pure _
      · exact binder.catalogue.skipsBlank_offers _ kind

theorem skipsBlank_preconditionProvider :
    (binder.preconditionProvider expression).SkipsBlank := by
  intro context
  rw [preconditionProvider]
  split
  · exact Action.makesOnly_pure _
  · exact binder.evaluator.skipsBlank_reading _ context expression

theorem skipsBlank_radioCandidatesProvider :
    (binder.radioCandidatesProvider expression).SkipsBlank :=
  fun context => (binder.evaluator.skipsBlank_reading _ context expression).bind fun _ =>
    Action.makesOnly_pure _

theorem each_itemProviders : binder.itemProviders.Each Provider.SkipsBlank := by
  constructor
  all_goals exact fun context => Action.makesOnly_pure _

theorem each_referenceProviders (widget : String) (expressions : ReferenceExpressions) :
    (binder.referenceProviders widget expressions).Each Provider.SkipsBlank := by
  constructor
  case items => exact binder.skipsBlank_nodesProvider expressions.value
  case item => exact binder.each_itemProviders
  case owner => exact binder.skipsBlank_ownerProvider expressions.owner
  case referenceKind => exact binder.skipsBlank_referenceKindProvider expressions.type
  case candidates => exact binder.skipsBlank_candidatesProvider expressions.searchScope widget
  case childCreation =>
    exact binder.skipsBlank_childCreationProvider expressions.type expressions.owner

theorem each_primitiveList (widget : String) (description : ListDescription) :
    (binder.primitiveList widget description).Each Provider.SkipsBlank := by
  constructor
  case items => exact binder.skipsBlank_valuesProvider description.value
  case item => exact binder.each_itemProviders
  case options => exact binder.skipsBlank_valuesProvider description.options
  case itemAction =>
    intro action declared
    obtain ⟨described, _, rfl⟩ := Option.map_eq_some_iff.mp declared
    constructor
    case iconUrl => exact binder.skipsBlank_textProvider described.iconUrl
    case precondition => exact binder.skipsBlank_preconditionProvider described.precondition

/-- No provider of a bound widget evaluates a blank expression. -/
theorem each_boundWidget (description : WidgetDescription) :
    (binder.boundWidget description).Each Provider.SkipsBlank := by
  constructor
  case common =>
    constructor
    case id => exact fun context => Action.makesOnly_pure _
    case label => exact binder.skipsBlank_textProvider description.label
    case help =>
      intro help declared
      have given : (if Text.isBlank? description.help then none
          else some (binder.textProvider description.help)) = some help := declared
      split at given
      · cases given
      · cases given
        exact binder.skipsBlank_textProvider description.help
    case isEnabled => exact binder.skipsBlank_truthProvider description.isEnabled true
    case style =>
      exact fun context => WidgetStyle.skipsBlank_select binder.evaluator context
        description.style description.conditionalStyles
  case detail =>
    rw [boundWidget]
    cases description.detail with
    | monoReference reference => exact .monoReference (binder.each_referenceProviders _ _)
    | multiReference reference => exact .multiReference (binder.each_referenceProviders _ _)
    | containmentReference containment =>
        exact .containmentReference (binder.each_referenceProviders _ _)
          fun context => Action.makesOnly_pure _
    | primitiveList list => exact .primitiveList (binder.each_primitiveList _ list)
    | primitiveRadio radio =>
        exact .primitiveRadio (binder.skipsBlank_radioCandidatesProvider radio.candidates)
          (binder.skipsBlank_textProvider radio.value)
    | languageExpression => exact .languageExpression

end Binder

/-! ## Descriptions without blank expressions -/

def ReferenceDescription.unlessBlank (reference : ReferenceDescription) :
    ReferenceDescription :=
  { reference with
    value := Text.unlessBlank reference.value
    owner := Text.unlessBlank reference.owner
    type := Text.unlessBlank reference.type
    searchScope := Text.unlessBlank reference.searchScope }

def ItemAction.unlessBlank (action : ItemAction) : ItemAction :=
  { action with
    iconUrl := Text.unlessBlank action.iconUrl
    precondition := Text.unlessBlank action.precondition }

/-- A detail without its blank expressions; the operations of its slots are as they were. -/
def WidgetDetail.unlessBlank : WidgetDetail → WidgetDetail
  | .monoReference reference => .monoReference reference.unlessBlank
  | .multiReference reference => .multiReference reference.unlessBlank
  | .containmentReference containment =>
      .containmentReference
        { containment with
          value := Text.unlessBlank containment.value
          owner := Text.unlessBlank containment.owner
          type := Text.unlessBlank containment.type }
  | .primitiveList list =>
      .primitiveList
        { value := Text.unlessBlank list.value
          options := Text.unlessBlank list.options
          slots :=
            { list.slots with
              itemAction := list.slots.itemAction.map ItemAction.unlessBlank } }
  | .primitiveRadio radio =>
      .primitiveRadio
        { radio with
          value := Text.unlessBlank radio.value
          candidates := Text.unlessBlank radio.candidates }
  | .languageExpression => .languageExpression

/-- A description without its blank expressions and without styles of blank conditions. -/
def WidgetDescription.unlessBlank (description : WidgetDescription) : WidgetDescription :=
  { description with
    label := Text.unlessBlank description.label
    help := Text.unlessBlank description.help
    isEnabled := Text.unlessBlank description.isEnabled
    conditionalStyles := ConditionalStyle.withCondition description.conditionalStyles
    detail := description.detail.unlessBlank }

namespace Binder

variable (binder : Binder) (widget : String) (expression : Option String)

theorem textProvider_unlessBlank :
    binder.textProvider (Text.unlessBlank expression) = binder.textProvider expression := by
  funext context
  simp only [textProvider, Evaluator.text, Evaluator.evaluate?_unlessBlank]

theorem truthProvider_unlessBlank (default : Bool) :
    binder.truthProvider (Text.unlessBlank expression) default =
      binder.truthProvider expression default := by
  funext context
  simp only [truthProvider, Evaluator.truth, Evaluator.evaluate?_unlessBlank]

theorem nodesProvider_unlessBlank :
    binder.nodesProvider (Text.unlessBlank expression) = binder.nodesProvider expression := by
  funext context
  simp only [nodesProvider, Evaluator.nodes, Evaluator.evaluate?_unlessBlank]

theorem valuesProvider_unlessBlank :
    binder.valuesProvider (Text.unlessBlank expression) = binder.valuesProvider expression := by
  funext context
  simp only [valuesProvider, Evaluator.values, Evaluator.evaluate?_unlessBlank]

theorem ownerProvider_unlessBlank :
    binder.ownerProvider (Text.unlessBlank expression) = binder.ownerProvider expression := by
  funext context
  simp only [ownerProvider, Text.isBlank?_unlessBlank, Evaluator.evaluate?_unlessBlank]

theorem referenceKindProvider_unlessBlank :
    binder.referenceKindProvider (Text.unlessBlank expression) =
      binder.referenceKindProvider expression := by
  funext context
  simp only [referenceKindProvider, Evaluator.evaluate?_unlessBlank]

theorem candidatesProvider_unlessBlank :
    binder.candidatesProvider widget (Text.unlessBlank expression) =
      binder.candidatesProvider widget expression := by
  funext context
  simp only [candidatesProvider, CandidateSearch.find_unlessBlank]

theorem childCreationProvider_unlessBlank (owner : Option String) :
    binder.childCreationProvider (Text.unlessBlank owner) (Text.unlessBlank expression) =
      binder.childCreationProvider owner expression := by
  funext context
  simp only [childCreationProvider, ownerProvider_unlessBlank, referenceKindProvider_unlessBlank]

theorem preconditionProvider_unlessBlank :
    binder.preconditionProvider (Text.unlessBlank expression) =
      binder.preconditionProvider expression := by
  funext context
  simp only [preconditionProvider, Text.isBlank?_unlessBlank, Evaluator.truth,
    Evaluator.evaluate?_unlessBlank]

theorem radioCandidatesProvider_unlessBlank :
    binder.radioCandidatesProvider (Text.unlessBlank expression) =
      binder.radioCandidatesProvider expression := by
  funext context
  simp only [radioCandidatesProvider, Evaluator.values, Evaluator.evaluate?_unlessBlank]

theorem commonProviders_unlessBlank (description : WidgetDescription) :
    binder.commonProviders description.unlessBlank = binder.commonProviders description := by
  simp only [commonProviders, WidgetDescription.unlessBlank, textProvider_unlessBlank,
    truthProvider_unlessBlank, Text.isBlank?_unlessBlank, WidgetStyle.select_withCondition]

theorem referenceProviders_unlessBlank (value owner type searchScope : Option String) :
    binder.referenceProviders widget
        ⟨Text.unlessBlank value, Text.unlessBlank owner, Text.unlessBlank type,
          Text.unlessBlank searchScope⟩ =
      binder.referenceProviders widget ⟨value, owner, type, searchScope⟩ := by
  simp only [referenceProviders, nodesProvider_unlessBlank, ownerProvider_unlessBlank,
    referenceKindProvider_unlessBlank, candidatesProvider_unlessBlank,
    childCreationProvider_unlessBlank]

theorem itemAction_unlessBlank (action : ItemAction) :
    binder.itemAction widget action.unlessBlank = binder.itemAction widget action := by
  simp only [itemAction, ItemAction.unlessBlank, textProvider_unlessBlank,
    preconditionProvider_unlessBlank]

theorem boundDetail_unlessBlank (detail : WidgetDetail) :
    binder.boundDetail widget detail.unlessBlank = binder.boundDetail widget detail := by
  cases detail with
  | monoReference reference =>
      simp only [WidgetDetail.unlessBlank, ReferenceDescription.unlessBlank, boundDetail,
        monoReference, referenceProviders_unlessBlank]
  | multiReference reference =>
      simp only [WidgetDetail.unlessBlank, ReferenceDescription.unlessBlank, boundDetail,
        multiReference, referenceProviders_unlessBlank]
  | containmentReference containment =>
      have shown := binder.referenceProviders_unlessBlank widget containment.value
        containment.owner containment.type none
      rw [show Text.unlessBlank none = none from rfl] at shown
      simp only [WidgetDetail.unlessBlank, boundDetail, containmentReference, shown]
  | primitiveList list =>
      simp only [WidgetDetail.unlessBlank, boundDetail, primitiveList,
        valuesProvider_unlessBlank, Option.map_map, Function.comp_def, itemAction_unlessBlank]
  | primitiveRadio radio =>
      simp only [WidgetDetail.unlessBlank, boundDetail, primitiveRadio,
        radioCandidatesProvider_unlessBlank, textProvider_unlessBlank]
  | languageExpression => rfl

/-- Leaving out its blank expressions makes no difference to what a description is bound to. -/
theorem boundWidget_unlessBlank (description : WidgetDescription) :
    binder.boundWidget description.unlessBlank = binder.boundWidget description := by
  rw [boundWidget, commonProviders_unlessBlank]
  exact congrArg (BoundWidget.mk _)
    (binder.boundDetail_unlessBlank description.id description.detail)

end Binder

/-! ## Runs of operations -/

/-- A run evaluates a blank expression when it reaches an operation that asks for one. -/
theorem Execution.makes_blank_iff (evaluator : Evaluator) (service : EditService)
    (body : OperationBody) (context : Context) (start : Session) :
    ∃ made, Attempt.Makes (runBody evaluator service body context) start made ∧
      ((∃ evaluation ∈ made, Text.isBlank evaluation.expression = true) ↔
        ∃ operation place reached,
          Reaches evaluator service body context start operation place reached ∧
            operation.FindsSelf place ∧
            ∃ expression ∈ operation.asks (evaluator.answer reached.edits place),
              Text.isBlank expression = true) := by
  obtain ⟨made, makes, account⟩ := accounted_runBody body context start
  refine ⟨made, makes, ?_⟩
  constructor
  · rintro ⟨evaluation, member, blank⟩
    obtain ⟨operation, place, reached, reaches, own⟩ := (account evaluation).mp member
    obtain ⟨found, expression, asked, rfl⟩ := Operation.mem_evaluations_iff.mp own
    exact ⟨operation, place, reached, reaches, found, expression, asked, blank⟩
  · rintro ⟨operation, place, reached, reaches, found, expression, asked, blank⟩
    refine ⟨evaluator.evaluation place expression, ?_, blank⟩
    apply (account _).mpr
    refine ⟨operation, place, reached, reaches, ?_⟩
    exact Operation.mem_evaluations_iff.mpr ⟨found, expression, asked, rfl⟩

/--
No provider of a bound widget, no choice of a style and no search for candidates
evaluates a blank expression, which counts as an absent one there.  A run of
operations does evaluate one, exactly when it reaches an operation that asks for it.
-/
theorem Binder.blank_evaluated_iff_asked (binder : Binder) :
    (∀ description bound,
      let widget := (Action.outcome (binder.bind description) bound).1
      widget.Each Provider.SkipsBlank ∧
        binder.boundWidget description.unlessBlank = widget) ∧
    (∀ (evaluator : Evaluator) context default styles,
      Action.SkipsBlank (WidgetStyle.select evaluator context default styles) ∧
        WidgetStyle.select evaluator context default (ConditionalStyle.withCondition styles) =
          WidgetStyle.select evaluator context default styles) ∧
    (∀ (search : CandidateSearch) target searchScope id,
      Action.SkipsBlank (search.find target searchScope id) ∧
        (Text.isBlank? searchScope = true → search.find target searchScope id = pure [])) ∧
    (∀ (evaluator : Evaluator) context expression, Text.isBlank? expression = true →
      evaluator.ReadsAsAbsent context expression) ∧
    ∀ (evaluator : Evaluator) service body context start, ∃ made,
      Attempt.Makes (Execution.runBody evaluator service body context) start made ∧
        ((∃ evaluation ∈ made, Text.isBlank evaluation.expression = true) ↔
          ∃ operation place reached,
            Execution.Reaches evaluator service body context start operation place reached ∧
              operation.FindsSelf place ∧
              ∃ expression ∈ operation.asks (evaluator.answer reached.edits place),
                Text.isBlank expression = true) := by
  refine ⟨?providers, ?styles, ?candidates, ?readings, ?runs⟩
  case providers =>
    intro description bound
    exact ⟨binder.each_boundWidget description, binder.boundWidget_unlessBlank description⟩
  case styles =>
    intro evaluator context default styles
    exact ⟨WidgetStyle.skipsBlank_select evaluator context default styles,
      WidgetStyle.select_withCondition evaluator context default styles⟩
  case candidates =>
    intro search target searchScope id
    exact ⟨search.skipsBlank_find target searchScope id, search.find_of_blank target id⟩
  case readings =>
    intro evaluator context expression blank
    exact evaluator.readsAsAbsent_of_blank context blank
  case runs => exact Execution.makes_blank_iff

/-- A blank scope and a blank label are skipped; a blank element to delete is evaluated. -/
theorem Binder.blank_evaluated_by_inner_delete :
    let host : HostScript := {}
    let binder := host.binder (Execution.runner (host.evaluator none) host.editService)
    let onBook := Context.ofSelf (.node ⟨"book"⟩)
    let body : OperationBody := [.bind "draft" "self" [.delete "\t"]]
    Text.isBlank? (some " ") = true ∧
      binder.evaluator.text onBook (some " ") = pure "" ∧
      binder.candidateSearch.find ⟨"book"⟩ (some " ") "books" = pure [] ∧
      ∃ made,
        Attempt.Makes (Execution.runBody binder.evaluator host.editService body onBook) {} made ∧
          ∃ evaluation ∈ made, Text.isBlank evaluation.expression = true := by
  intro host binder onBook body
  obtain ⟨_, _, candidates, readings, runs⟩ := binder.blank_evaluated_iff_asked
  have blank : Text.isBlank? (some " ") = true := by
    decide
  obtain ⟨made, makes, evaluated⟩ := runs binder.evaluator host.editService body onBook {}
  refine ⟨blank, (readings binder.evaluator onBook (some " ") blank).text,
    (candidates binder.candidateSearch ⟨"book"⟩ (some " ") "books").2 blank, made, makes, ?_⟩
  apply evaluated.mpr
  refine ⟨.delete "\t", _, _, .inside (.bind rfl) (.here _ _ _ _), ?found, "\t", ?asked, ?blank⟩
  case found => exact fun needed => nomatch needed
  case asked => exact List.mem_singleton.mpr rfl
  case blank => decide

/-- A blank value to set is evaluated, and the answer is set. -/
theorem Execution.blank_evaluated_by_set :
    let host : HostScript := {}
    let onBook := Context.ofSelf (.node ⟨"book"⟩)
    let ran := Attempt.outcome
      (runBody (host.evaluator none) host.editService [.set "title" " "] onBook) {}
    Text.isBlank " " = true ∧
      ran.2.evaluations.map Evaluation.expression = [" "] ∧
      ran.2.edits = [.set ⟨"book"⟩ "title" .null] := by
  intro host onBook ran
  refine ⟨by decide, ?evaluated, ?edited⟩
  case evaluated => decide +kernel
  case edited => decide +kernel

end FormWidgets
