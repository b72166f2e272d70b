import FormWidgets.Host.Script
import FormWidgets.Proofs.Execution.Comparison

/-!
# A refused edit ends the run

An operation body stops at the first edit that is refused, at whatever depth
the edit is asked for.  To say so, a run is compared with the run that has the
same collaborators up to some call and is refused there.  The second run makes
the same requests up to that call and ends with the error that reports the
refusal: no later sibling, no later repetition and no enclosing operation asks
for anything more.
-/

namespace FormWidgets

namespace Session

/-- The edits asked for since an earlier session. -/
def editsSince (session start : Session) : List Edit :=
  session.edits.drop start.edits.length

end Session

namespace EditService

/--
The service that answers its first calls as one service does, refuses the next
one, and answers all later ones as another service does.
-/
def refusingAfter (service later : EditService) (calls : Nat) (report : ErrorReport) :
    EditService where
  feedback history edit :=
    if history.length < calls then service.feedback history edit
    else later.feedback history edit
  refusal history edit :=
    if history.length < calls then service.refusal history edit
    else if history.length = calls then some report
    else later.refusal history edit
  created history owner typeName referenceName :=
    if history.length < calls then service.created history owner typeName referenceName
    else later.created history owner typeName referenceName

variable (service later : EditService) (calls : Nat) (report : ErrorReport)

theorem outcome_submit_refusingAfter_of_lt {session : Session} (edit : Edit)
    (early : session.edits.length < calls) :
    Attempt.outcome ((service.refusingAfter later calls report).submit edit) session =
      Attempt.outcome (service.submit edit) session := by
  simp [outcome_submit, verdict, sessionAfter, refusingAfter, early]

theorem outcome_create_refusingAfter_of_lt {session : Session}
    (owner : Node) (typeName referenceName : String)
    (early : session.edits.length < calls) :
    Attempt.outcome
        ((service.refusingAfter later calls report).create owner typeName referenceName)
        session =
      Attempt.outcome (service.create owner typeName referenceName) session := by
  simp [outcome_create, verdict, sessionAfter, refusingAfter, early]

theorem verdict_refusingAfter {history : List Edit} (edit : Edit)
    (due : history.length = calls) :
    (service.refusingAfter later calls report).verdict history edit =
      .error (.ofReport report) := by
  simp [verdict, refusingAfter, due]

theorem trace_sessionAfter_refusingAfter {session : Session} (edit : Edit)
    (due : session.edits.length = calls) :
    ((service.refusingAfter later calls report).sessionAfter edit session).trace =
      session.trace ++ [.edited edit false] := by
  simp [trace_sessionAfter, refusingAfter, due]

end EditService

namespace Execution

/-! ## Two runs until the refusal -/

/--
The session of a run with more edits than allowed, beside that of the run that
was refused: they agree up to the refused call, which is the last thing that the
second run did.
-/
def RefusedAt (calls : Nat) (full cut : Session) : Prop :=
  ∃ common edit accepted rest,
    (common.filterMap Interaction.edit?).length = calls ∧
      full.trace = common ++ .edited edit accepted :: rest ∧
      cut.trace = common ++ [.edited edit false]

theorem RefusedAt.extend {calls : Nat} {full longer cut : Session}
    (refused : RefusedAt calls full cut) (grows : full.trace <+: longer.trace) :
    RefusedAt calls longer cut := by
  obtain ⟨common, edit, accepted, rest, count, fullTrace, cutTrace⟩ := refused
  obtain ⟨more, longerTrace⟩ := grows
  refine ⟨common, edit, accepted, rest ++ more, count, ?_, cutTrace⟩
  rw [← longerTrace, fullTrace]
  simp

/-- The refused run asked for the first edits of the other one, the refused one included. -/
theorem RefusedAt.edits_eq {calls : Nat} {full cut : Session}
    (refused : RefusedAt calls full cut) :
    cut.edits = full.edits.take (calls + 1) ∧ cut.edits.length = calls + 1 := by
  obtain ⟨common, edit, accepted, rest, count, fullTrace, cutTrace⟩ := refused
  have fullEdits : full.edits =
      common.filterMap Interaction.edit? ++ edit :: rest.filterMap Interaction.edit? := by
    simp [Session.edits, fullTrace, Interaction.edit?]
  have cutEdits : cut.edits = common.filterMap Interaction.edit? ++ [edit] := by
    simp [Session.edits, cutTrace, Interaction.edit?]
  constructor
  · rw [fullEdits, cutEdits, ← count, List.take_length_add_append]
    rfl
  · rw [cutEdits, List.length_append, count]
    rfl

/-- The second attempt is the first one, refused at a call. -/
structure CutAt (calls : Nat) (report : ErrorReport) {Result : Type}
    (related : Result → Result → Prop) (full cut : Attempt Result) : Prop where
  grows : ∀ session, session.trace <+: (full.outcome session).2.trace
  agrees : ∀ session, (full.outcome session).2.edits.length ≤ calls →
    Agree related (full.outcome session).1 (cut.outcome session).1 ∧
      (cut.outcome session).2 = (full.outcome session).2
  stops : ∀ session, session.edits.length ≤ calls →
    calls < (full.outcome session).2.edits.length →
    (cut.outcome session).1 = .error (.ofReport report) ∧
      RefusedAt calls (full.outcome session).2 (cut.outcome session).2

namespace CutAt

variable {calls : Nat} {report : ErrorReport} {Result Between : Type}

theorem edits_le {related : Result → Result → Prop} {full cut : Attempt Result}
    (cutAt : CutAt calls report related full cut) (session : Session) :
    session.edits.length ≤ (full.outcome session).2.edits.length :=
  (Session.edits_prefix_of_trace (cutAt.grows session)).length_le

/-- Attempts that ask for no edit only have to agree. -/
theorem of_unedited {related : Result → Result → Prop} {full cut : Attempt Result}
    (grows : ∀ session, session.trace <+: (full.outcome session).2.trace)
    (unedited : ∀ session, (full.outcome session).2.edits = session.edits)
    (agrees : ∀ session, Agree related (full.outcome session).1 (cut.outcome session).1 ∧
      (cut.outcome session).2 = (full.outcome session).2) :
    CutAt calls report related full cut where
  grows := grows
  agrees session _ := agrees session
  stops session early late := by
    rw [unedited] at late
    omega

/-- Within the allowed calls the two attempts end alike, in the same session. -/
theorem ending {related : Result → Result → Prop} {full cut : Attempt Result}
    (cutAt : CutAt calls report related full cut) {session after : Session}
    {ending : Except EngineError Result} (ends : full.outcome session = (ending, after))
    (within : after.edits.length ≤ calls) :
    ∃ other, Agree related ending other ∧ cut.outcome session = (other, after) := by
  have agrees := cutAt.agrees session
  rw [ends] at agrees
  obtain ⟨endings, same⟩ := agrees within
  exact ⟨(cut.outcome session).1, endings, Prod.ext rfl same⟩

/-- Within the allowed calls, a first part that gives a result gives a related one. -/
theorem result {related : Result → Result → Prop} {full cut : Attempt Result}
    (cutAt : CutAt calls report related full cut) {session after : Session}
    {given : Result} (ends : full.outcome session = (.ok given, after))
    (within : after.edits.length ≤ calls) :
    ∃ other, related given other ∧ cut.outcome session = (.ok other, after) := by
  obtain ⟨_, endings, ends'⟩ := cutAt.ending ends within
  cases endings with
  | ok results => exact ⟨_, results, ends'⟩

/-- Within the allowed calls, a first part that fails does so in both runs. -/
theorem failure {related : Result → Result → Prop} {full cut : Attempt Result}
    (cutAt : CutAt calls report related full cut) {session after : Session}
    {error : EngineError} (ends : full.outcome session = (.error error, after))
    (within : after.edits.length ≤ calls) :
    cut.outcome session = (.error error, after) := by
  obtain ⟨_, endings, ends'⟩ := cutAt.ending ends within
  cases endings with
  | error error => exact ends'

/-- A sequence is cut where its first part is, or else where its second part is. -/
theorem bind {between : Between → Between → Prop} {related : Result → Result → Prop}
    {full cut : Attempt Between} {fullNext cutNext : Between → Attempt Result}
    (reflexive : ∀ result, between result result)
    (first : CutAt calls report between full cut)
    (next : ∀ left right, between left right →
      CutAt calls report related (fullNext left) (cutNext right)) :
    CutAt calls report related (full >>= fullNext) (cut >>= cutNext) where
  grows session := by
    have firstGrows := first.grows session
    rcases ends : full.outcome session with ⟨error | given, after⟩
    · rw [ends] at firstGrows
      rw [Attempt.outcome_bind_of_error _ ends]
      exact firstGrows
    · rw [ends] at firstGrows
      rw [Attempt.outcome_bind_of_ok _ ends]
      exact firstGrows.trans ((next given given (reflexive given)).grows after)
  agrees session within := by
    rcases ends : full.outcome session with ⟨error | given, after⟩
    · rw [Attempt.outcome_bind_of_error _ ends] at within ⊢
      rw [Attempt.outcome_bind_of_error _ (first.failure ends within)]
      exact ⟨.error error, rfl⟩
    · rw [Attempt.outcome_bind_of_ok _ ends] at within ⊢
      have firstWithin := Nat.le_trans
        ((next given given (reflexive given)).edits_le after) within
      obtain ⟨other, results, ends'⟩ := first.result ends firstWithin
      rw [Attempt.outcome_bind_of_ok _ ends']
      exact (next given other results).agrees after within
  stops session early late := by
    -- The call that is refused is asked for by the first part or by the second one.
    by_cases within : (full.outcome session).2.edits.length ≤ calls
    · rcases ends : full.outcome session with ⟨error | given, after⟩
      · rw [Attempt.outcome_bind_of_error _ ends] at late
        rw [ends] at within
        omega
      · rw [ends] at within
        rw [Attempt.outcome_bind_of_ok _ ends] at late ⊢
        obtain ⟨other, results, ends'⟩ := first.result ends within
        rw [Attempt.outcome_bind_of_ok _ ends']
        exact (next given other results).stops after within late
    · obtain ⟨fails, refused⟩ := first.stops session early (by omega)
      have ends' : cut.outcome session =
          (.error (.ofReport report), (cut.outcome session).2) := by
        rw [← fails]
      rw [Attempt.outcome_bind_of_error _ ends']
      refine ⟨rfl, refused.extend ?_⟩
      rcases ends : full.outcome session with ⟨error | given, after⟩
      · simp only [Attempt.outcome_bind_of_error _ ends, List.prefix_refl]
      · rw [Attempt.outcome_bind_of_ok _ ends]
        exact (next given given (reflexive given)).grows after

/-- A request is the same in both runs before the refused call, and is refused there. -/
theorem of_request (service later : EditService) (edit : Edit)
    {full cut : Attempt Result}
    (asked : ∀ session, (full.outcome session).2 = service.sessionAfter edit session)
    (early : ∀ session, session.edits.length < calls →
      cut.outcome session = full.outcome session)
    (due : ∀ session, session.edits.length = calls →
      cut.outcome session = (.error (.ofReport report),
        (service.refusingAfter later calls report).sessionAfter edit session)) :
    CutAt calls report Eq full cut where
  grows session := by
    rw [asked, service.trace_sessionAfter]
    exact List.prefix_append _ _
  agrees session within := by
    rw [asked, service.edits_sessionAfter, List.length_append] at within
    rw [early session within]
    exact ⟨.of_eq (fun _ => rfl) _, rfl⟩
  stops session within late := by
    rw [asked, service.edits_sessionAfter, List.length_append] at late
    have reached : session.edits.length = calls :=
      Nat.le_antisymm within (Nat.le_of_lt_succ late)
    rw [asked, due session reached]
    exact ⟨rfl, session.trace, edit, _, [], reached, service.trace_sessionAfter edit session,
      service.trace_sessionAfter_refusingAfter later calls report edit reached⟩

variable (evaluator : Evaluator) (service later : EditService)

theorem of_evaluate (context : Context) (expression : String) :
    CutAt calls report Eq (liftM (evaluator.evaluate context expression))
      (liftM (evaluator.evaluate context expression)) := by
  refine .of_unedited (fun session => ?_) (fun session => ?_) fun session => ?_
  · exact List.prefix_append _ _
  · simp [Interaction.edit?]
  · exact ⟨.ok rfl, rfl⟩

theorem of_submit (edit : Edit) :
    CutAt calls report Eq (service.submit edit)
      ((service.refusingAfter later calls report).submit edit) := by
  refine .of_request service later edit (fun session => ?_) (fun session early => ?_)
    (fun session due => ?_)
  · rw [service.outcome_submit]
  · exact service.outcome_submit_refusingAfter_of_lt later calls report edit early
  · rw [EditService.outcome_submit, service.verdict_refusingAfter later calls report edit due]

theorem of_create (owner : Node) (typeName referenceName : String) :
    CutAt calls report Eq (service.create owner typeName referenceName)
      ((service.refusingAfter later calls report).create owner typeName referenceName) := by
  refine .of_request service later (.create owner typeName referenceName)
    (fun session => ?_) (fun session early => ?_) (fun session due => ?_)
  · rw [service.outcome_create]
  · exact service.outcome_create_refusingAfter_of_lt later calls report _ _ _ early
  · rw [EditService.outcome_create, service.verdict_refusingAfter later calls report _ due]
    rfl

end CutAt

/-- The run of a body beside the run that is refused at a call. -/
def refusal (evaluator : Evaluator) (service later : EditService) (calls : Nat)
    (report : ErrorReport) :
    RunComparison evaluator evaluator service
      (service.refusingAfter later calls report) where
  contexts := .same
  attempts := CutAt calls report
  pure results :=
    .of_unedited (fun _ => List.prefix_refl _) (fun _ => rfl) fun _ => ⟨.ok results, rfl⟩
  throw error :=
    .of_unedited (fun _ => List.prefix_refl _) (fun _ => rfl) fun _ => ⟨.error error, rfl⟩
  bind := CutAt.bind
  evaluate expression same := same ▸ CutAt.of_evaluate evaluator _ expression
  submit := CutAt.of_submit service later
  create := CutAt.of_create service later

/-! ## Fail-stop -/

/--
When a run asks for more edits than the given number, refusing the next one ends
it there.  The refused run fails with the error that reports the refusal, its
requests are the first ones of the full run, and the refused request is the last
interaction of all.
-/
theorem runBody_refusingAfter (evaluator : Evaluator) (service later : EditService)
    (body : OperationBody) (context : Context) (start : Session) (calls : Nat)
    (report : ErrorReport)
    (reaches : calls < ((Attempt.outcome
      (runBody evaluator service body context) start).2.editsSince start).length) :
    let full := Attempt.outcome (runBody evaluator service body context) start
    let refusing := service.refusingAfter later (start.edits.length + calls) report
    let cut := Attempt.outcome (runBody evaluator refusing body context) start
    cut.1 = .error (.ofReport report) ∧
      (cut.2.editsSince start).length = calls + 1 ∧
      cut.2.editsSince start = (full.2.editsSince start).take (calls + 1) ∧
      ∃ common edit accepted rest,
        full.2.trace = common ++ .edited edit accepted :: rest ∧
          cut.2.trace = common ++ [.edited edit false] := by
  intro full refusing cut
  have cutAt := (refusal evaluator service later (start.edits.length + calls)
    report).runBody body (rfl : context = context)
  have late : start.edits.length + calls < full.2.edits.length := by
    have more : calls < (full.2.editsSince start).length := reaches
    rw [Session.editsSince, List.length_drop] at more
    omega
  obtain ⟨fails, refused⟩ := cutAt.stops start (Nat.le_add_right _ _) late
  obtain ⟨editsEq, count⟩ := refused.edits_eq
  refine ⟨fails, ?_, ?_, ?_⟩
  · rw [Session.editsSince, List.length_drop, count]
    omega
  · rw [Session.editsSince, Session.editsSince, editsEq, List.drop_take]
    congr 1
    omega
  · obtain ⟨common, edit, accepted, rest, _, fullTrace, cutTrace⟩ := refused
    exact ⟨common, edit, accepted, rest, fullTrace, cutTrace⟩

/-- Create and fill an element under each of several nodes, and clear a feature at last. -/
def creationsPerItem : OperationBody :=
  [.forEach "each" "items"
      [.changeContext "each" [.create "Book" "books" none [.set "title" "each"]]],
    .clear "draft"]

/-- A scope with two items. -/
def twoItems : Context :=
  (Context.ofSelf (.node ⟨"library"⟩)).put "items"
    (.list [.node ⟨"north"⟩, .node ⟨"south"⟩])

/-- Of five edits the third one, a creation in the second repetition, is refused. -/
theorem creationsPerItem_refusingAfter_two :
    let host : HostScript := {}
    let report : ErrorReport := ⟨{ kind := .editRejected, message := "read-only" }, []⟩
    let refusing := host.editService.refusingAfter host.editService (0 + 2) report
    let full := Attempt.outcome
      (runBody (host.evaluator none) host.editService creationsPerItem twoItems) {}
    let cut := Attempt.outcome
      (runBody (host.evaluator none) refusing creationsPerItem twoItems) {}
    2 < (full.2.editsSince {}).length ∧
      cut.1 = .error (.editRejected "edit" "read-only") ∧
      (cut.2.editsSince {}).length = 3 ∧
      cut.2.editsSince {} = (full.2.editsSince {}).take 3 := by
  intro host report refusing full cut
  have reaches : 2 < (full.2.editsSince {}).length := by decide
  obtain ⟨fails, count, edits, _⟩ := runBody_refusingAfter (host.evaluator none)
    host.editService host.editService creationsPerItem twoItems {} 2 report reaches
  exact ⟨reaches, fails, count, edits⟩

end Execution

end FormWidgets
