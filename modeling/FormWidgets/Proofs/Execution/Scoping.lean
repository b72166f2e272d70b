import FormWidgets.Execution
import FormWidgets.Host.Script
import FormWidgets.Proofs.Session.Outcome

/-!
# Scoping of bindings

An operation leaves at most one binding behind: a creation binds the element it
made, in the scope it runs in.  Every other operation gives its scope back as it
was, whatever its children bind.  So the scope at the end of a body differs from
the first one exactly in the variables of the creations that stand directly in
the body, and of several creations with one variable the last one counts.
-/

namespace FormWidgets

/-- The variable that an operation leaves bound in the scope it runs in. -/
def Operation.boundVariable? : Operation → Option String
  | .create _ _ variableName _ => some (variableName.getD Variable.newInstance)
  | _ => none

namespace Attempt

variable {Result Between : Type}

/-- An attempt whose result, if it comes to one, is known in advance. -/
def Gives (attempt : Attempt Result) (result : Result) : Prop :=
  ∀ session given after, outcome attempt session = (.ok given, after) → given = result

theorem gives_pure (result : Result) : Gives (pure result) result := by
  intro session given after ends
  rw [outcome_pure] at ends
  cases ends
  rfl

/-- Only the last part of a sequence decides its result. -/
theorem Gives.after {attempt : Attempt Between} {next : Between → Attempt Result}
    {result : Result} (gives : ∀ between, Gives (next between) result) :
    Gives (attempt >>= next) result := by
  intro session given after ends
  obtain ⟨between, middle, _, ends⟩ := outcome_bind_eq_ok_iff.mp ends
  exact gives between middle given after ends

end Attempt

namespace Execution

variable (evaluator : Evaluator) (service : EditService)

/-- An operation that is no creation gives its scope back as it was. -/
theorem runOperation_gives_scope {operation : Operation} (scope : Context)
    (noBinding : operation.boundVariable? = none) :
    Attempt.Gives (runOperation evaluator service operation scope) scope := by
  cases operation with
  | changeContext expression children =>
      rw [runOperation]
      exact .after fun _ => .after fun _ => Attempt.gives_pure scope
  | bind variableName expression children =>
      rw [runOperation]
      exact .after fun _ => .after fun _ => Attempt.gives_pure scope
  | when condition children =>
      rw [runOperation]
      refine .after fun answer => ?_
      cases answer.bool?.getD false with
      | false => exact Attempt.gives_pure scope
      | true => exact .after fun _ => Attempt.gives_pure scope
  | forEach iterator expression children =>
      rw [runOperation]
      exact .after fun _ => .after fun _ => Attempt.gives_pure scope
  | create typeName referenceName variableName children => cases noBinding
  | set feature expression =>
      rw [runOperation]
      exact .after fun _ => .after fun _ => .after fun _ => Attempt.gives_pure scope
  | unset feature element =>
      cases element with
      | none =>
          rw [runOperation]
          exact .after fun _ => .after fun _ => Attempt.gives_pure scope
      | some expression =>
          rw [runOperation]
          exact .after fun _ => .after fun _ => .after fun _ => Attempt.gives_pure scope
  | add feature expression index =>
      cases index with
      | none =>
          rw [runOperation]
          exact .after fun _ => .after fun _ => .after fun _ => Attempt.gives_pure scope
      | some indexExpression =>
          rw [runOperation]
          exact .after fun _ => .after fun _ => .after fun _ => .after fun _ =>
            Attempt.gives_pure scope
  | remove feature expression =>
      rw [runOperation]
      exact .after fun _ => .after fun _ => .after fun _ => Attempt.gives_pure scope
  | reorder feature expression toIndexExpression =>
      rw [runOperation]
      exact .after fun _ => .after fun _ => .after fun _ => .after fun _ =>
        Attempt.gives_pure scope
  | clear feature =>
      rw [runOperation]
      exact .after fun _ => .after fun _ => Attempt.gives_pure scope
  | delete expression =>
      rw [runOperation]
      exact .after fun _ => .after fun _ => Attempt.gives_pure scope
  | custom name expressions =>
      rw [runOperation]
      exact .after fun _ => .after fun _ => Attempt.gives_pure scope

/-- Finding the node that `self` is bound to leaves the session alone. -/
theorem selfNode?_of_outcome_selfNode {scope : Context} {owner : Node}
    {session after : Session}
    (found : Attempt.outcome (selfNode scope) session = (.ok owner, after)) :
    scope.selfNode? = some owner ∧ after = session := by
  rw [selfNode] at found
  cases self : scope.selfNode? with
  | none =>
      rw [self] at found
      cases found
  | some node =>
      rw [self] at found
      cases found
      exact ⟨rfl, rfl⟩

/-- A creation binds the node that the service answers to it, and nothing else. -/
theorem outcome_runOperation_create {typeName referenceName : String}
    {variableName : Option String} {children : List Operation} {scope out : Context}
    {session after : Session}
    (ends : Attempt.outcome
      (runOperation evaluator service
        (.create typeName referenceName variableName children) scope) session =
      (.ok out, after)) :
    ∃ owner node made,
      scope.selfNode? = some owner ∧
        Attempt.outcome (service.create owner typeName referenceName) session =
          (.ok node, made) ∧
        out = scope.put (variableName.getD Variable.newInstance) (.node node) := by
  rw [runOperation] at ends
  obtain ⟨owner, middle, found, rest⟩ := Attempt.outcome_bind_eq_ok_iff.mp ends
  obtain ⟨node, made, created, children⟩ := Attempt.outcome_bind_eq_ok_iff.mp rest
  obtain ⟨self, same⟩ := selfNode?_of_outcome_selfNode found
  have bound := Attempt.Gives.after
    (fun _ => Attempt.gives_pure
      (scope.put (variableName.getD Variable.newInstance) (.node node)))
    made out after children
  exact ⟨owner, node, made, self, same ▸ created, bound⟩

/-- A variable that an operation does not leave bound is the same afterwards. -/
theorem find?_of_runOperation {operation : Operation} {scope out : Context}
    {session after : Session} {name : String}
    (ends : Attempt.outcome (runOperation evaluator service operation scope) session =
      (.ok out, after))
    (unbound : operation.boundVariable? ≠ some name) :
    out.find? name = scope.find? name := by
  cases bound : operation.boundVariable? with
  | none =>
      rw [runOperation_gives_scope evaluator service scope bound session out after ends]
  | some variableName =>
      cases operation with
      | create typeName referenceName variableName? children =>
          obtain ⟨_, node, _, _, _, rfl⟩ :=
            outcome_runOperation_create evaluator service ends
          exact scope.find?_put_of_ne (.node node)
            fun same => unbound (congrArg some same.symm)
      | _ => cases bound

/-- A variable that no operation of a body leaves bound is the same afterwards. -/
theorem find?_of_runBody {body : OperationBody} {scope out : Context}
    {session after : Session} {name : String}
    (ends : Attempt.outcome (runBody evaluator service body scope) session =
      (.ok out, after))
    (unbound : ∀ operation ∈ body, operation.boundVariable? ≠ some name) :
    out.find? name = scope.find? name := by
  induction body generalizing scope session with
  | nil =>
      rw [runBody, Attempt.outcome_pure] at ends
      cases ends
      rfl
  | cons operation rest step =>
      rw [runBody] at ends
      obtain ⟨next, middle, first, ends⟩ := Attempt.outcome_bind_eq_ok_iff.mp ends
      have here := find?_of_runOperation evaluator service first
        (unbound operation List.mem_cons_self)
      have later := step ends fun other member =>
        unbound other (List.mem_cons_of_mem _ member)
      exact later.trans here

/-- A body runs as its first part and then its second one. -/
theorem runBody_append (first second : OperationBody) (scope : Context) :
    runBody evaluator service (first ++ second) scope =
      runBody evaluator service first scope >>= runBody evaluator service second := by
  induction first generalizing scope with
  | nil => simp [runBody]
  | cons operation rest step => simp [runBody, step]

/-! ## The scope at the end of a body -/

/--
At the end of a body, a variable of no creation directly in the body has the
value it had before, and a variable of such creations has the node that the
service answered to the last of them.  After one operation, at whatever depth it
runs, only the variable that the operation itself leaves bound has changed.
-/
theorem find?_at_end_of_runBody {body : OperationBody} {context out : Context}
    {session after : Session}
    (ends : Attempt.outcome (runBody evaluator service body context) session =
      (.ok out, after))
    (name : String) :
    ((∀ operation ∈ body, operation.boundVariable? ≠ some name) →
        out.find? name = context.find? name) ∧
      (∀ earlier typeName referenceName variableName children later,
        body = earlier ++ .create typeName referenceName variableName children :: later →
        variableName.getD Variable.newInstance = name →
        (∀ operation ∈ later, operation.boundVariable? ≠ some name) →
        ∃ scope middle owner node made,
          Attempt.outcome (runBody evaluator service earlier context) session =
              (.ok scope, middle) ∧
            scope.selfNode? = some owner ∧
            Attempt.outcome (service.create owner typeName referenceName) middle =
              (.ok node, made) ∧
            out.find? name = some (.node node)) ∧
      ∀ operation scope next before reached,
        Attempt.outcome (runOperation evaluator service operation scope) before =
          (.ok next, reached) →
        operation.boundVariable? ≠ some name →
        next.find? name = scope.find? name := by
  refine ⟨find?_of_runBody evaluator service ends, ?_,
    fun _ _ _ _ _ => find?_of_runOperation evaluator service⟩
  rintro earlier typeName referenceName variableName children later rfl rfl last
  rw [runBody_append] at ends
  obtain ⟨scope, middle, first, ends⟩ := Attempt.outcome_bind_eq_ok_iff.mp ends
  rw [runBody] at ends
  obtain ⟨bound, reached, creation, ends⟩ := Attempt.outcome_bind_eq_ok_iff.mp ends
  obtain ⟨owner, node, made, self, created, rfl⟩ :=
    outcome_runOperation_create evaluator service creation
  refine ⟨scope, middle, owner, node, made, first, self, created, ?_⟩
  rw [find?_of_runBody evaluator service ends last]
  exact scope.find?_put_self _ _

/-- Create a book, and a note under the same variable within a scope of its own. -/
def bookAndNote : OperationBody :=
  [.create "Book" "books" (some "book") [],
    .bind "book" "title" [.create "Note" "notes" (some "book") []]]

/-- Rebind `self` once per item, for a scope of its own each time. -/
def markItems : OperationBody :=
  [.forEach Variable.self "items" [.set "mark" Variable.self]]

/-- A creation named `self` stays visible behind a loop that rebinds `self`. -/
theorem find?_self_at_end_of_shadowing :
    let host : HostScript := {}
    let shelf := Operation.create "Shelf" "shelves" (some Variable.self)
      [.create "Board" "boards" (some "book") []]
    let context := (Context.ofSelf (.node ⟨"library"⟩)).put "items"
      (.list [.node ⟨"north"⟩, .node ⟨"south"⟩])
    ∃ out after,
      Attempt.outcome
          (runBody (host.evaluator none) host.editService
            (bookAndNote ++ shelf :: markItems) context) {} =
        (.ok out, after) ∧
      (∀ operation ∈ markItems, operation.boundVariable? ≠ some Variable.self) ∧
      ∃ scope middle owner node made,
        Attempt.outcome
            (runBody (host.evaluator none) host.editService bookAndNote context) {} =
          (.ok scope, middle) ∧
        scope.selfNode? = some owner ∧
        Attempt.outcome (host.editService.create owner "Shelf" "shelves") middle =
          (.ok node, made) ∧
        out.find? Variable.self = some (.node node) := by
  intro host shelf context
  have last : ∀ operation ∈ markItems, operation.boundVariable? ≠ some Variable.self := by
    decide
  have completes : (Attempt.outcome
      (runBody (host.evaluator none) host.editService
        (bookAndNote ++ shelf :: markItems) context) {}).1.isOk = true := by
    decide
  rcases ends : Attempt.outcome
      (runBody (host.evaluator none) host.editService
        (bookAndNote ++ shelf :: markItems) context) {} with ⟨error | out, after⟩
  · rw [ends] at completes
    cases completes
  · exact ⟨out, after, rfl, last,
      (find?_at_end_of_runBody (host.evaluator none) host.editService ends
        Variable.self).2.1 bookAndNote _ _ (some Variable.self) _ markItems rfl rfl last⟩

end Execution

end FormWidgets
