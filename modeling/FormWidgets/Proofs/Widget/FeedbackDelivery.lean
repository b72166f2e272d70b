import FormWidgets.Proofs.Execution.Comparison
import FormWidgets.Proofs.Widget.GestureRouting

/-!
# Delivery of feedback

Messages reach the buffer from two sides: the host adds them between gestures,
and the edit service adds them while an operation body runs.  They leave it only
with the status of a gesture.  The main statement accounts for all of them over
a whole run of a host: what the statuses carry, followed by what the buffer
still holds, is what was added, in the order of addition.

A stretch of a run is balanced when this holds for it.  Balanced stretches
follow each other, and every gesture is one, on each way it can end.
-/

namespace FormWidgets

namespace EditService

variable (service : EditService)

/-- The messages left by edits that are asked for in order after earlier ones. -/
def messagesFor (history : List Edit) : List Edit → List Message
  | [] => []
  | edit :: rest => service.feedback history edit ++ messagesFor (history ++ [edit]) rest

theorem messagesFor_append (history first second : List Edit) :
    service.messagesFor history (first ++ second) =
      service.messagesFor history first ++
        service.messagesFor (history ++ first) second := by
  induction first generalizing history with
  | nil => simp [messagesFor]
  | cons edit rest step => simp [messagesFor, step]

end EditService

/-! ## Balanced stretches -/

/--
Between two sessions some edits were asked for and some messages were handed
out: these and what the buffer holds at the end are what it held before and what
the edits left.
-/
def Balanced (service : EditService) (before : Session) (delivered : List Message)
    (after : Session) : Prop :=
  ∃ made, after.edits = before.edits ++ made ∧
    delivered ++ after.feedback = before.feedback ++ service.messagesFor before.edits made

namespace Balanced

variable {service : EditService}

/-- Nothing is asked for and the buffer is left alone. -/
theorem of_undisturbed {before after : Session} (edits : after.edits = before.edits)
    (feedback : after.feedback = before.feedback) : Balanced service before [] after :=
  ⟨[], by simp [edits], by simp [feedback, EditService.messagesFor]⟩

theorem trans {first middle last : Session} {early late : List Message}
    (earlyPart : Balanced service first early middle)
    (latePart : Balanced service middle late last) :
    Balanced service first (early ++ late) last := by
  obtain ⟨made, edits, messages⟩ := earlyPart
  obtain ⟨more, moreEdits, moreMessages⟩ := latePart
  refine ⟨made ++ more, by rw [moreEdits, edits, List.append_assoc], ?_⟩
  calc
    early ++ late ++ last.feedback
        = early ++ (middle.feedback ++ service.messagesFor middle.edits more) := by
          rw [List.append_assoc, moreMessages]
    _ = first.feedback ++ service.messagesFor first.edits made ++
          service.messagesFor middle.edits more := by
          rw [← List.append_assoc, messages]
    _ = first.feedback ++ service.messagesFor first.edits (made ++ more) := by
          rw [edits, service.messagesFor_append, List.append_assoc]

/-- A request for an edit puts the messages of that edit into the buffer. -/
theorem of_request (before : Session) (edit : Edit) :
    Balanced service before [] (service.sessionAfter edit before) :=
  ⟨[edit], by simp, by simp [EditService.messagesFor]⟩

/-- The edits of a balanced stretch are those since its start. -/
theorem messages_eq {before after : Session} {delivered : List Message}
    (balanced : Balanced service before delivered after) :
    delivered ++ after.feedback = before.feedback ++
      service.messagesFor before.edits (after.edits.drop before.edits.length) := by
  obtain ⟨made, edits, messages⟩ := balanced
  rw [messages, edits, List.drop_left]

end Balanced

/-- An action that hands out nothing and only adds what its edits leave. -/
def Action.Silent (service : EditService) {Result : Type} (action : Action Result) : Prop :=
  ∀ session, Balanced service session [] (Action.outcome action session).2

/-- An action whose status carries everything that the buffer held or received. -/
def Action.Delivers (service : EditService) (action : Action Status) : Prop :=
  ∀ session,
    Balanced service session (Action.outcome action session).1.messages
        (Action.outcome action session).2 ∧
      (Action.outcome action session).2.feedback = []

namespace Action

variable {service : EditService} {Result Next : Type}

theorem silent_pure (result : Result) : Silent service (pure result) :=
  fun _ => .of_undisturbed rfl rfl

theorem silent_logEvent (event : LogEvent) : Silent service (logEvent event) :=
  fun _ => .of_undisturbed rfl rfl

theorem silent_freshRequest : Silent service freshRequest :=
  fun _ => .of_undisturbed rfl rfl

theorem silent_record {interaction : Interaction} (noEdit : interaction.edit? = none) :
    Silent service (record interaction) := by
  intro session
  have edits := session.edits_recorded interaction
  rw [noEdit, Option.toList_none, List.append_nil] at edits
  exact .of_undisturbed edits rfl

theorem Silent.bind {action : Action Result} {next : Result → Action Next}
    (first : Silent service action) (rest : ∀ result, Silent service (next result)) :
    Silent service (action >>= next) :=
  fun session => (first session).trans (rest _ _)

/-- A status is delivered by what comes after silent actions. -/
theorem Silent.delivers {action : Action Result} {next : Result → Action Status}
    (first : Silent service action) (rest : ∀ result, Delivers service (next result)) :
    Delivers service (action >>= next) :=
  fun session => ⟨(first session).trans (rest _ _).1, (rest _ _).2⟩

/-- Emptying the buffer into a status delivers it. -/
theorem delivers_takeFeedback {status : List Message → Status}
    (carries : ∀ messages, (status messages).messages = messages) :
    Delivers service (takeFeedback >>= fun messages => pure (status messages)) := by
  intro session
  refine ⟨⟨[], ?_, ?_⟩, rfl⟩
  · exact (List.append_nil _).symm
  · show (status session.feedback).messages ++ [] = session.feedback ++ []
    rw [carries]

theorem OnlyAsks.silent {action : Action Result} (asks : OnlyAsks action) :
    Silent service action :=
  fun session => .of_undisturbed (asks session).2.1 (asks session).2.2

end Action

/-! ## Handlers -/

open FormWidgets.Action

variable {service : EditService}

/-- Running a body adds the messages of its edits to the buffer, also when it fails. -/
theorem Execution.silent_runner (evaluator : Evaluator) (body : OperationBody)
    (context : Context) : Silent service (runner evaluator service body context) := by
  have ran : Silent service (runBody evaluator service body context).run := fun session =>
    step_runBody (fun _ => .of_undisturbed rfl rfl) (fun first second => first.trans second)
      (fun _ _ _ => .of_undisturbed (by simp [Interaction.edit?]) rfl)
      Balanced.of_request body context session
  refine ran.bind fun ending => ?_
  cases ending with
  | ok scope => exact silent_pure _
  | error error => exact (silent_logEvent _).bind fun _ => silent_pure _

namespace EditHandler

variable (handler : EditHandler) {runner : OperationRunner}

theorem delivers_fail (request detail : String) :
    Delivers service (handler.fail request detail) :=
  (silent_logEvent _).delivers fun _ => delivers_takeFeedback fun _ => rfl

/-- Every end of an invocation takes the feedback into its status. -/
theorem delivers_invoke (ran : ∀ body context, Silent service (runner body context))
    (context : Context) (bindings : List (String × Value)) :
    Delivers service (handler.invoke runner context bindings) := by
  refine silent_freshRequest.delivers fun request => ?_
  refine (silent_logEvent _).delivers fun _ => ?_
  cases handler.operations? with
  | none =>
      refine (silent_logEvent _).delivers fun _ => ?_
      exact delivers_takeFeedback fun _ => rfl
  | some body =>
      have recorded : Silent service
          (runner.run body (context.bindAll bindings)) :=
        (ran body _).bind fun _ => (silent_record rfl).bind fun _ => silent_pure _
      refine recorded.delivers fun result => ?_
      cases result with
      | none => exact handler.delivers_fail request _
      | some scope =>
          refine (silent_logEvent _).delivers fun _ => ?_
          exact delivers_takeFeedback fun _ => rfl

/-- A creation delivers its feedback also when its key cannot be read. -/
theorem delivers_invokeCreate (ran : ∀ body context, Silent service (runner body context))
    (context : Context) (owner : Option Node) (key : String) :
    Delivers service (handler.invokeCreate runner context owner key) := by
  unfold invokeCreate
  cases ChildCreation.decodeKey? key with
  | none =>
      refine (silent_logEvent _).delivers fun _ => ?_
      exact silent_freshRequest.delivers fun request => handler.delivers_fail request _
  | some place => exact handler.delivers_invoke ran context _

end EditHandler

/-! ## Gestures -/

/-- The messages that a gesture hands out. -/
def GestureOutcome.delivered (outcome : GestureOutcome) : List Message :=
  (outcome.status?.map Status.messages).getD []

/-- A gesture is balanced, and leaves the buffer empty when it gives a status. -/
def Action.Settles (service : EditService) (action : Action GestureOutcome) : Prop :=
  ∀ session,
    Balanced service session (Action.outcome action session).1.delivered
        (Action.outcome action session).2 ∧
      ((Action.outcome action session).1.status?.isSome →
        (Action.outcome action session).2.feedback = [])

namespace Gesture

variable {runner : OperationRunner}

theorem settles_without_status {outcome : GestureOutcome} (none : outcome.status? = none) :
    Settles service (pure outcome) := by
  intro session
  constructor
  · rw [outcome_pure, GestureOutcome.delivered, none]
    exact .of_undisturbed rfl rfl
  · intro given
    rw [outcome_pure, none] at given
    cases given

theorem settles_done {action : Action Status} (delivers : Delivers service action) :
    Settles service (action >>= fun status => pure (.done status)) :=
  fun session => ⟨(delivers session).1, fun _ => (delivers session).2⟩

theorem settles_through (ran : ∀ body context, Silent service (runner body context))
    (context : Context) (handler : EditHandler) (bindings : List (String × Value)) :
    Settles service (through runner context handler bindings) :=
  settles_done (handler.delivers_invoke ran context bindings)

theorem settles_throughWired (ran : ∀ body context, Silent service (runner body context))
    (context : Context) (bindings : List (String × Value)) (handler : Option EditHandler) :
    Settles service (throughWired runner context bindings handler) := by
  cases handler with
  | none => exact settles_without_status rfl
  | some handler => exact settles_through ran context handler bindings

theorem settles_creation (ran : ∀ body context, Silent service (runner body context))
    (context : Context) {reference : ReferenceProviders}
    (owner : Silent service (reference.owner context)) (handler : EditHandler)
    (key : String) : Settles service (creation runner context reference handler key) := by
  intro session
  have status := settles_done
    (handler.delivers_invokeCreate ran context (outcome (reference.owner context) session).1 key)
    (outcome (reference.owner context) session).2
  exact ⟨(owner session).trans status.1, status.2⟩

end Gesture

section Widgets

open Gesture

variable {runner : OperationRunner}
  (ran : ∀ body context, Silent service (runner body context))
  (context : Context)

include ran

theorem MonoReferenceWidget.settles_perform (widget : MonoReferenceWidget)
    (owner : Silent service (widget.reference.owner context)) (gesture : Gesture) :
    Settles service (widget.perform runner context gesture) := by
  cases gesture with
  | set value => exact settles_through ran context _ _
  | unset value => exact settles_through ran context _ _
  | clear => exact settles_through ran context _ _
  | createElement key => exact settles_creation ran context owner _ key
  | _ => exact settles_without_status rfl

theorem MultiReferenceWidget.settles_perform (widget : MultiReferenceWidget)
    (owner : Silent service (widget.reference.owner context)) (gesture : Gesture) :
    Settles service (widget.perform runner context gesture) := by
  cases gesture with
  | addAll values => exact settles_through ran context _ _
  | remove value => exact settles_through ran context _ _
  | clear => exact settles_through ran context _ _
  | reorder value fromIndex toIndex => exact settles_through ran context _ _
  | createElement key => exact settles_creation ran context owner _ key
  | _ => exact settles_without_status rfl

theorem ContainmentWidget.settles_perform (widget : ContainmentWidget)
    (owner : Silent service (widget.reference.owner context)) (gesture : Gesture) :
    Settles service (widget.perform runner context gesture) := by
  cases gesture with
  | createElement key => exact settles_creation ran context owner _ key
  | click value => exact settles_throughWired ran context _ _
  | reorder value fromIndex toIndex => exact settles_throughWired ran context _ _
  | _ => exact settles_without_status rfl

theorem ListWidget.settles_perform (widget : ListWidget) (gesture : Gesture) :
    Settles service (widget.perform runner context gesture) := by
  cases gesture with
  | delete value => exact settles_throughWired ran context _ _
  | add value => exact settles_throughWired ran context _ _
  | reorder value fromIndex toIndex => exact settles_throughWired ran context _ _
  | itemAction value => exact settles_throughWired ran context _ _
  | _ => exact settles_without_status rfl

theorem RadioWidget.settles_perform (widget : RadioWidget) (gesture : Gesture) :
    Settles service (widget.perform runner context gesture) := by
  cases gesture with
  | select text => exact settles_through ran context _ _
  | _ => exact settles_without_status rfl

end Widgets

namespace Binder

variable (binder : Binder)

/-- Finding the owner of a reference adds no message. -/
theorem silent_ownerProvider (expression : Option String) (context : Context) :
    Silent service (binder.ownerProvider expression context) :=
  (binder.onlyAsks_ownerProvider expression context).silent

/-- Every gesture with a widget of the binder is balanced. -/
theorem settles_perform (ran : ∀ body context, Silent service (binder.runner body context))
    (description : WidgetDescription) (context : Context) (gesture : Gesture) :
    Settles service
      (binder.perform (binder.boundWidget description) context gesture) := by
  unfold perform BoundWidget.perform boundWidget boundDetail
  cases description.detail with
  | monoReference reference =>
      exact (binder.monoReference description.id reference).settles_perform ran context
        (binder.silent_ownerProvider _ context) gesture
  | multiReference reference =>
      exact (binder.multiReference description.id reference).settles_perform ran context
        (binder.silent_ownerProvider _ context) gesture
  | containmentReference containment =>
      exact (binder.containmentReference description.id containment).settles_perform ran
        context (binder.silent_ownerProvider _ context) gesture
  | primitiveList list =>
      exact (binder.primitiveList description.id list).settles_perform ran context gesture
  | primitiveRadio radio =>
      exact (binder.primitiveRadio description.id radio).settles_perform ran context gesture
  | languageExpression => exact Gesture.settles_without_status rfl

end Binder

/-! ## Runs of a host -/

/-- What a host does between two looks at the buffer. -/
inductive HostStep where
  /-- Add a message. -/
  | message (message : Message)
  /-- Let the user do a gesture with the widget of a description. -/
  | gesture (description : WidgetDescription) (context : Context) (gesture : Gesture)

/-- A step of a host, with the sessions around it and the status it gave, if any. -/
structure HostMoment where
  step : HostStep
  before : Session
  status : Option Status
  after : Session

namespace HostMoment

/-- The messages that a step handed out. -/
def delivered (moment : HostMoment) : List Message :=
  (moment.status.map Status.messages).getD []

/-- The messages that were added during a step: by the host, or by the edits of the gesture. -/
def added (service : EditService) (moment : HostMoment) : List Message :=
  match moment.step with
  | .message message => [message]
  | .gesture .. =>
      service.messagesFor moment.before.edits
        (moment.after.edits.drop moment.before.edits.length)

end HostMoment

namespace Binder

variable (binder : Binder)

/-- The binder whose runner executes bodies with an evaluator and an edit service. -/
def executing (evaluator : Evaluator) (service : EditService) : Binder :=
  { binder with runner := Execution.runner evaluator service }

/-- Do one step of a host. -/
def act : HostStep → Action (Option Status)
  | .message message => do
      Action.addFeedback [message]
      pure none
  | .gesture description context gesture => do
      let outcome ← binder.perform (binder.boundWidget description) context gesture
      pure outcome.status?

/-- Do the steps of a host in order. -/
def serve : List HostStep → Session → List HostMoment × Session
  | [], session => ([], session)
  | step :: rest, session =>
      let (status, after) := Action.outcome (binder.act step) session
      let (moments, final) := serve rest after
      (⟨step, session, status, after⟩ :: moments, final)

/-- The account of one step, and the state of the buffer after a status. -/
theorem act_balanced (ran : ∀ body context, Silent service (binder.runner body context))
    (step : HostStep) (before : Session) :
    let moment : HostMoment :=
      ⟨step, before, (Action.outcome (binder.act step) before).1,
        (Action.outcome (binder.act step) before).2⟩
    moment.delivered ++ moment.after.feedback =
        moment.before.feedback ++ moment.added service ∧
      (moment.status.isSome → moment.after.feedback = []) := by
  cases step with
  | message message => exact ⟨rfl, fun given => nomatch given⟩
  | gesture description context gesture =>
      have settled := binder.settles_perform ran description context gesture before
      exact ⟨settled.1.messages_eq, settled.2⟩

/--
Over every run of a host, the messages of the statuses followed by those still
in the buffer are the messages that were there at the start followed by all that
were added, in order; and after every step that gives a status the buffer is
empty.
-/
theorem feedback_delivered_in_order (evaluator : Evaluator) (service : EditService)
    (steps : List HostStep) (start : Session) :
    let served := (binder.executing evaluator service).serve steps start
    served.1.flatMap HostMoment.delivered ++ served.2.feedback =
        start.feedback ++ served.1.flatMap (HostMoment.added service) ∧
      ∀ moment ∈ served.1, moment.status.isSome → moment.after.feedback = [] := by
  induction steps generalizing start with
  | nil => exact ⟨by simp [serve], by simp [serve]⟩
  | cons step rest later =>
      let executing := binder.executing evaluator service
      let moment : HostMoment :=
        ⟨step, start, (Action.outcome (executing.act step) start).1,
          (Action.outcome (executing.act step) start).2⟩
      obtain ⟨account, emptied⟩ :=
        executing.act_balanced (Execution.silent_runner evaluator) step start
      obtain ⟨laterAccount, laterEmptied⟩ := later moment.after
      let served := executing.serve rest moment.after
      constructor
      · show (moment :: served.1).flatMap HostMoment.delivered ++ served.2.feedback =
          start.feedback ++ (moment :: served.1).flatMap (HostMoment.added service)
        calc
          (moment :: served.1).flatMap HostMoment.delivered ++ served.2.feedback
              = moment.delivered ++
                  (served.1.flatMap HostMoment.delivered ++ served.2.feedback) := by
                rw [List.flatMap_cons, List.append_assoc]
          _ = moment.delivered ++ moment.after.feedback ++
                served.1.flatMap (HostMoment.added service) := by
                rw [laterAccount, List.append_assoc]
          _ = start.feedback ++ moment.added service ++
                served.1.flatMap (HostMoment.added service) := by
                rw [account]
          _ = start.feedback ++
                (moment :: served.1).flatMap (HostMoment.added service) := by
                rw [List.flatMap_cons, List.append_assoc]
      · intro other member given
        rcases List.mem_cons.mp member with rfl | member
        · exact emptied given
        · exact laterEmptied other member given

/-- A host that has a word for every title and does not let titles be changed. -/
def titleHost : HostScript where
  feedback := NameMap.empty.put "title" [⟨"Titles are fixed.", .warning⟩]
  refusals := NameMap.empty.put "title" ⟨{ kind := .editRejected, message := "fixed" }, []⟩

/-- A title that is set to the chosen value. -/
def titleReference : WidgetDescription where
  id := "title"
  name := "Title"
  detail := .monoReference { slots := { set := some [.set "title" "newValue"] } }

/-- The failed gesture hands out what the host and the refused edit had to say, and no more. -/
example :
    let book := Context.ofSelf (.node ⟨"book"⟩)
    let binder := (titleHost.binder fun _ _ => pure none).executing (titleHost.evaluator none)
      titleHost.editService
    let served := binder.serve
      [.message ⟨"Welcome.", .info⟩, .gesture titleReference book (.set (.text "Emma")),
        .message ⟨"Goodbye.", .info⟩] {}
    served.1.map HostMoment.delivered =
        [[], [⟨"Welcome.", .info⟩, ⟨"Titles are fixed.", .warning⟩], []] ∧
      served.2.feedback = [⟨"Goodbye.", .info⟩] := by
  decide +kernel

end Binder

end FormWidgets
