import FormWidgets.Host.Script
import FormWidgets.Proofs.Execution.Comparison
import FormWidgets.Proofs.NameMap.Lookup
import Mathlib

/-!
# Variables that are not read

An evaluator may leave a variable unread.  Two runs of a body whose contexts
differ at most in such a variable cannot be told apart by what they do: they
evaluate the same expressions, ask for the same edits and end alike.  The one
variable that a body itself reads is `self`, so this is about any other one.

On the way the two scopes may come to agree again, when the body binds the
variable, or stay different to the end, in that variable alone.
-/

namespace FormWidgets

namespace Context

/-- Two contexts that bind every variable but one alike. -/
def AgreeApart (hidden : String) (left right : Context) : Prop :=
  ∀ name, name ≠ hidden → left.find? name = right.find? name

variable {hidden : String} {left right : Context}

theorem AgreeApart.refl (hidden : String) (context : Context) :
    AgreeApart hidden context context :=
  fun _ _ => rfl

theorem agreeApart_put (hidden : String) (context : Context) (value : Value) :
    AgreeApart hidden context (context.put hidden value) :=
  fun _ other => (context.find?_put_of_ne value other).symm

theorem AgreeApart.put (agree : AgreeApart hidden left right) (name : String) (value : Value) :
    AgreeApart hidden (left.put name value) (right.put name value) := by
  intro key other
  rw [NameMap.find?_put, NameMap.find?_put, agree key other]

/-- Binding the variable makes the contexts equal. -/
theorem AgreeApart.put_hidden (agree : AgreeApart hidden left right) (value : Value) :
    left.put hidden value = right.put hidden value := by
  apply NameMap.ext_find?
  intro name
  rw [NameMap.find?_put, NameMap.find?_put]
  split
  · rfl
  · rename_i other
    exact agree name other

end Context

namespace Evaluator

/-- No answer depends on whether a variable is bound or on what it is bound to. -/
def LeavesUnread (evaluator : Evaluator) (hidden : String) : Prop :=
  ∀ history context value expression,
    evaluator.answer history (context.put hidden value) expression =
      evaluator.answer history context expression

theorem LeavesUnread.answer_eq {evaluator : Evaluator} {hidden : String}
    (unread : evaluator.LeavesUnread hidden) {left right : Context}
    (agree : Context.AgreeApart hidden left right) (history : List Edit) (expression : String) :
    evaluator.answer history left expression = evaluator.answer history right expression := by
  calc
    evaluator.answer history left expression
        = evaluator.answer history (left.put hidden .null) expression :=
          (unread history left .null expression).symm
    _ = evaluator.answer history (right.put hidden .null) expression := by
          rw [agree.put_hidden .null]
    _ = evaluator.answer history right expression :=
          unread history right .null expression

end Evaluator

/-- A script that has an answer of its own to a name never reads the variable. -/
theorem HostScript.leavesUnread_of_answered {script : HostScript} {hidden : String}
    (answered : (script.answers.find? hidden).isSome) (notSelf : hidden ≠ Variable.self)
    (view : Option ViewRoot) : (script.evaluator view).LeavesUnread hidden := by
  intro history context value expression
  have self : Context.selfNode? (context.put hidden value) = context.selfNode? := by
    rw [Context.selfNode?, Context.selfNode?, Context.self?, Context.self?,
      context.find?_put_of_ne value (Ne.symm notSelf)]
  have general : (script.answers.find? expression <|>
        (context.put hidden value).find? expression) =
      (script.answers.find? expression <|> context.find? expression) := by
    by_cases same : expression = hidden
    · obtain ⟨answer, found⟩ := Option.isSome_iff_exists.mp answered
      rw [same, found]
      rfl
    · rw [context.find?_put_of_ne value same]
  simp only [HostScript.evaluator, HostScript.answer, self, general]

/-- The same interaction, up to a variable that an evaluation has in sight. -/
inductive Interaction.AlikeApart (hidden : String) : Interaction → Interaction → Prop where
  | evaluated (view : Option ViewRoot) (expression : String) {left right : Context}
      (agree : Context.AgreeApart hidden left right) :
      AlikeApart hidden (.evaluated ⟨view, left, expression⟩)
        (.evaluated ⟨view, right, expression⟩)
  | refl (interaction : Interaction) : AlikeApart hidden interaction interaction

/-- Sessions with the same feedback in which the same was done in the same order. -/
structure Session.AlikeApart (hidden : String) (left right : Session) : Prop where
  trace : List.Forall₂ (Interaction.AlikeApart hidden) left.trace right.trace
  feedback : left.feedback = right.feedback

theorem Interaction.AlikeApart.edit?_eq {hidden : String} {left right : Interaction}
    (alike : AlikeApart hidden left right) : left.edit? = right.edit? := by
  cases alike with
  | evaluated view expression agree => rfl
  | refl interaction => rfl

theorem Interaction.filterMap_edit?_eq {hidden : String} {left right : List Interaction}
    (alike : List.Forall₂ (AlikeApart hidden) left right) :
    left.filterMap edit? = right.filterMap edit? := by
  induction alike with
  | nil => rfl
  | cons same _ step =>
      rw [List.filterMap_cons, List.filterMap_cons, same.edit?_eq, step]

namespace Session.AlikeApart

variable {hidden : String} {left right : Session}

theorem refl (hidden : String) (session : Session) : AlikeApart hidden session session where
  trace := List.forall₂_same.mpr fun interaction _ => .refl interaction
  feedback := rfl

theorem edits_eq (alike : AlikeApart hidden left right) : left.edits = right.edits :=
  Interaction.filterMap_edit?_eq alike.trace

theorem recorded (alike : AlikeApart hidden left right) {first second : Interaction}
    (same : Interaction.AlikeApart hidden first second) :
    AlikeApart hidden (left.recorded first) (right.recorded second) where
  trace := List.rel_append alike.trace (.cons same .nil)
  feedback := alike.feedback

theorem hearing (alike : AlikeApart hidden left right) (messages : List Message) :
    AlikeApart hidden (left.hearing messages) (right.hearing messages) where
  trace := alike.trace
  feedback := congrArg (· ++ messages) alike.feedback

theorem keepsRelated (service : EditService) : service.KeepsRelated (AlikeApart hidden) where
  edits_eq := edits_eq
  sessionAfter edit alike := by
    rw [EditService.sessionAfter, EditService.sessionAfter, alike.edits_eq]
    exact (alike.hearing _).recorded (.refl _)

end Session.AlikeApart

namespace Execution

/-! ## Two runs that differ in a variable -/

theorem endAlike_evaluate {hidden : String} {evaluator : Evaluator}
    (unread : evaluator.LeavesUnread hidden) {left right : Context} (expression : String)
    (agree : Context.AgreeApart hidden left right) :
    Attempt.EndAlike (Session.AlikeApart hidden) Eq (liftM (evaluator.evaluate left expression))
      (liftM (evaluator.evaluate right expression)) := by
  intro first second alike
  refine ⟨.ok ?_, alike.recorded (.evaluated _ expression agree)⟩
  show evaluator.answer first.edits left expression = evaluator.answer second.edits right expression
  rw [alike.edits_eq, unread.answer_eq agree]

/-- Agreement apart from a variable other than `self`, as the relation of the scopes. -/
def agreementApart (hidden : String) (notSelf : hidden ≠ Variable.self) : ContextRelation where
  related := Context.AgreeApart hidden
  refl := Context.AgreeApart.refl hidden
  self?_eq agree := agree Variable.self (Ne.symm notSelf)
  put name value agree := agree.put name value

/-- The run of a body beside a run with another value of a variable that is not read. -/
def unreadComparison {hidden : String} (notSelf : hidden ≠ Variable.self)
    {evaluator : Evaluator} (unread : evaluator.LeavesUnread hidden) (service : EditService) :
    RunComparison evaluator evaluator service service where
  contexts := agreementApart hidden notSelf
  attempts := Attempt.EndAlike (Session.AlikeApart hidden)
  pure results := fun _ _ alike => ⟨.ok results, alike⟩
  throw error := fun _ _ alike => ⟨.error error, alike⟩
  bind _ := Attempt.EndAlike.bind
  evaluate := endAlike_evaluate unread
  submit := Attempt.EndAlike.of_submit (Session.AlikeApart.keepsRelated service)
  create := Attempt.EndAlike.of_create (Session.AlikeApart.keepsRelated service)

/--
A variable that is neither `self` nor read by the evaluator makes no difference
to what a body does: whatever it is bound to, the same edits are asked for, and
the runs end with the same error, or with contexts that agree apart from it.
-/
theorem runBody_of_unread {hidden : String} (notSelf : hidden ≠ Variable.self)
    {evaluator : Evaluator} (unread : evaluator.LeavesUnread hidden) (service : EditService)
    (body : OperationBody) (context : Context) (value : Value) (start : Session) :
    let plain := Attempt.outcome (runBody evaluator service body context) start
    let bound := Attempt.outcome
      (runBody evaluator service body (context.put hidden value)) start
    plain.2.edits = bound.2.edits ∧
      Agree (Context.AgreeApart hidden) plain.1 bound.1 ∧
      Session.AlikeApart hidden plain.2 bound.2 := by
  intro plain bound
  have ends := (unreadComparison notSelf unread service).runBody body
    (context.agreeApart_put hidden value)
  obtain ⟨endings, sessions⟩ := ends start start (.refl hidden start)
  exact ⟨sessions.edits_eq, endings, sessions⟩

/-- Copy each item that is ready, under the variable that holds the draft. -/
def copiesOfItems : OperationBody :=
  [.forEach "each" "items"
      [.bind "draft" "each"
        [.when "ready" [.create "Copy" "copies" (some "draft") [.set "title" "draft"]]]],
    .create "Note" "notes" (some "draft") [],
    .clear "drafts"]

/-- A host with a draft of its own. -/
def draftingHost : HostScript where
  answers := NameMap.ofList [("draft", .text "kept"), ("ready", .bool true)]

/-- A scope with two items and no draft. -/
def itemsToCopy : Context :=
  (Context.ofSelf (.node ⟨"library"⟩)).put "items"
    (.list [.node ⟨"north"⟩, .node ⟨"south"⟩])

theorem runBody_of_unread_draft :
    let evaluator := draftingHost.evaluator none
    let service := draftingHost.editService
    let drafted : Context := itemsToCopy.put "draft" (.text "other")
    let plain := Attempt.outcome (runBody evaluator service copiesOfItems itemsToCopy) {}
    let bound := Attempt.outcome (runBody evaluator service copiesOfItems drafted) {}
    "draft" ≠ Variable.self ∧ evaluator.LeavesUnread "draft" ∧
      plain.2.edits.length = 6 ∧ plain.2.edits = bound.2.edits ∧
      Agree (Context.AgreeApart "draft") plain.1 bound.1 := by
  intro evaluator service drafted plain bound
  have notSelf : "draft" ≠ Variable.self := by decide
  have unread : evaluator.LeavesUnread "draft" :=
    HostScript.leavesUnread_of_answered (by decide) notSelf none
  obtain ⟨edits, endings, _⟩ :=
    runBody_of_unread notSelf unread service copiesOfItems itemsToCopy (.text "other") {}
  exact ⟨notSelf, unread, by decide +kernel, edits, endings⟩

end Execution

end FormWidgets
