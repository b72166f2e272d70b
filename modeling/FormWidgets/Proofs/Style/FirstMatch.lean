import FormWidgets.Proofs.Session.Evaluations
import FormWidgets.Style
import Mathlib

/-!
# The style that is chosen

A list of conditional styles is gone through up to the first condition that holds.
Blank conditions do not hold and are not evaluated, and an answer that is no truth
value counts as false.

The main statement gives the style and the whole session afterwards, so it says
which conditions were evaluated and in which order.  It follows that entries which
do not hold can be put in before the match, and anything behind it.
-/

namespace FormWidgets

/-- An answer says yes: it is true, or a text that reads "true" but for white space around it. -/
inductive Answer.SaysTrue : Answer → Prop where
  | flag : SaysTrue (.of (.bool true))
  | text {content : String} (written : Text.trim content = "true") :
      SaysTrue (.of (.text content))

theorem Answer.bool?_eq_some_true_iff {answer : Answer} :
    answer.bool? = some true ↔ answer.SaysTrue := by
  constructor
  · intro read
    obtain ⟨value?⟩ := answer
    rcases value? with _ | value
    · cases read
    · cases value with
      | bool flag =>
          obtain rfl := Option.some.inj read
          exact .flag
      | text content =>
          by_cases written : Text.trim content = "true"
          · exact .text written
          · simp [bool?, written] at read
      | null | int _ | node _ | list _ => cases read
  · rintro (_ | written)
    · rfl
    · exact if_pos written

/-- The condition of a style is not blank, and after some edits it is answered by a yes. -/
structure ConditionalStyle.Holds (candidate : ConditionalStyle) (evaluator : Evaluator)
    (edits : List Edit) (context : Context) : Prop where
  visible : Text.isBlank candidate.condition = false
  saysTrue : (evaluator.answer edits context candidate.condition).SaysTrue

theorem ConditionalStyle.holds_iff {candidate : ConditionalStyle} {evaluator : Evaluator}
    {edits : List Edit} {context : Context} :
    candidate.Holds evaluator edits context ↔
      Text.isBlank candidate.condition = false ∧
        (evaluator.answer edits context candidate.condition).bool? = some true := by
  rw [Answer.bool?_eq_some_true_iff]
  exact ⟨fun ⟨visible, saysTrue⟩ => ⟨visible, saysTrue⟩,
    fun ⟨visible, saysTrue⟩ => ⟨visible, saysTrue⟩⟩

instance (candidate : ConditionalStyle) (evaluator : Evaluator) (edits : List Edit)
    (context : Context) : Decidable (candidate.Holds evaluator edits context) :=
  decidable_of_iff _ ConditionalStyle.holds_iff.symm

namespace Session

variable (session : Session) (made more : List Evaluation)

/-- The session after evaluations, in which nothing else happened. -/
def evaluating (session : Session) (made : List Evaluation) : Session :=
  { session with trace := session.trace ++ made.map .evaluated }

theorem evaluating_nil : session.evaluating [] = session := by
  simp [evaluating]

theorem evaluating_append :
    session.evaluating (made ++ more) = (session.evaluating made).evaluating more := by
  simp [evaluating]

theorem edits_evaluating : (session.evaluating made).edits = session.edits := by
  have none_edits : (made.map Interaction.evaluated).filterMap Interaction.edit? = [] := by
    simp [List.filterMap_map, Interaction.edit?]
  rw [edits, evaluating, List.filterMap_append, none_edits, List.append_nil]
  rfl

end Session

namespace WidgetStyle

variable {evaluator : Evaluator} {context : Context} {default : Option WidgetStyle}
  {candidate : ConditionalStyle} {session : Session}

/-- The evaluations of the conditions of some styles, in order and without the blank ones. -/
def evaluationsOf (evaluator : Evaluator) (context : Context)
    (candidates : List ConditionalStyle) : List Evaluation :=
  (candidates.filter fun candidate => !Text.isBlank candidate.condition).map fun candidate =>
    ⟨evaluator.view, context, candidate.condition⟩

theorem evaluationsOf_append (first second : List ConditionalStyle) :
    evaluationsOf evaluator context (first ++ second) =
      evaluationsOf evaluator context first ++ evaluationsOf evaluator context second := by
  rw [evaluationsOf, List.filter_append, List.map_append]
  rfl

/-! ## One condition -/

theorem outcome_truth_of_blank (blank : Text.isBlank candidate.condition = true) :
    Action.outcome (evaluator.truth context (some candidate.condition) false) session =
      (false, session.evaluating (evaluationsOf evaluator context [candidate])) := by
  rw [evaluationsOf, List.filter_cons_of_neg (by simp [blank]), List.filter_nil, List.map_nil,
    session.evaluating_nil, Evaluator.truth, Evaluator.evaluate?, if_pos blank]
  rfl

theorem outcome_truth_of_visible (visible : Text.isBlank candidate.condition = false) :
    Action.outcome (evaluator.truth context (some candidate.condition) false) session =
      ((evaluator.answer session.edits context candidate.condition).bool?.getD false,
        session.evaluating (evaluationsOf evaluator context [candidate])) := by
  rw [evaluationsOf, List.filter_cons_of_pos (by simp [visible]), List.filter_nil,
    Evaluator.truth, Evaluator.evaluate?, if_neg (by simp [visible])]
  rfl

theorem outcome_truth_of_holds (holds : candidate.Holds evaluator session.edits context) :
    Action.outcome (evaluator.truth context (some candidate.condition) false) session =
      (true, session.evaluating (evaluationsOf evaluator context [candidate])) := by
  obtain ⟨visible, yes⟩ := ConditionalStyle.holds_iff.mp holds
  rw [outcome_truth_of_visible visible, yes]
  rfl

theorem outcome_truth_of_not_holds (fails : ¬ candidate.Holds evaluator session.edits context) :
    Action.outcome (evaluator.truth context (some candidate.condition) false) session =
      (false, session.evaluating (evaluationsOf evaluator context [candidate])) := by
  by_cases blank : Text.isBlank candidate.condition = true
  · exact outcome_truth_of_blank blank
  · have visible : Text.isBlank candidate.condition = false := Bool.eq_false_iff.mpr blank
    have notYes : (evaluator.answer session.edits context candidate.condition).bool? ≠ some true :=
      fun yes => fails (ConditionalStyle.holds_iff.mpr ⟨visible, yes⟩)
    rw [outcome_truth_of_visible visible]
    rcases read : (evaluator.answer session.edits context candidate.condition).bool? with
      _ | _ | _
    · rfl
    · rfl
    · exact absurd read notYes

/-! ## A list of conditions -/

theorem outcome_select_cons_of_holds (rest : List ConditionalStyle)
    (holds : candidate.Holds evaluator session.edits context) :
    Action.outcome (select evaluator context default (candidate :: rest)) session =
      (some candidate.style, session.evaluating (evaluationsOf evaluator context [candidate])) := by
  rw [select, Action.outcome_bind, outcome_truth_of_holds holds]
  rfl

theorem outcome_select_cons_of_not_holds (rest : List ConditionalStyle)
    (fails : ¬ candidate.Holds evaluator session.edits context) :
    Action.outcome (select evaluator context default (candidate :: rest)) session =
      Action.outcome (select evaluator context default rest)
        (session.evaluating (evaluationsOf evaluator context [candidate])) := by
  rw [select, Action.outcome_bind, outcome_truth_of_not_holds fails]
  rfl

/-- Styles whose conditions do not hold are passed over, and their conditions evaluated. -/
theorem outcome_select_append (rest : List ConditionalStyle) {before : List ConditionalStyle}
    (fail : ∀ candidate ∈ before, ¬ candidate.Holds evaluator session.edits context) :
    Action.outcome (select evaluator context default (before ++ rest)) session =
      Action.outcome (select evaluator context default rest)
        (session.evaluating (evaluationsOf evaluator context before)) := by
  induction before generalizing session with
  | nil => rw [List.nil_append, evaluationsOf, List.filter_nil, List.map_nil, session.evaluating_nil]
  | cons candidate before later =>
      rw [List.cons_append, outcome_select_cons_of_not_holds _ (fail candidate List.mem_cons_self),
        later, ← Session.evaluating_append, ← evaluationsOf_append, List.singleton_append]
      intro other member
      rw [Session.edits_evaluating]
      exact fail other (List.mem_cons_of_mem _ member)

theorem outcome_select_of_first {before : List ConditionalStyle} {first : ConditionalStyle}
    (after : List ConditionalStyle)
    (fail : ∀ candidate ∈ before, ¬ candidate.Holds evaluator session.edits context)
    (holds : first.Holds evaluator session.edits context) :
    Action.outcome (select evaluator context default (before ++ first :: after)) session =
      (some first.style,
        session.evaluating (evaluationsOf evaluator context (before ++ [first]))) := by
  rw [outcome_select_append _ fail, outcome_select_cons_of_holds, ← Session.evaluating_append,
    ← evaluationsOf_append]
  rwa [Session.edits_evaluating]

theorem outcome_select_of_none {candidates : List ConditionalStyle}
    (fail : ∀ candidate ∈ candidates, ¬ candidate.Holds evaluator session.edits context) :
    Action.outcome (select evaluator context default candidates) session =
      (default, session.evaluating (evaluationsOf evaluator context candidates)) := by
  have passed : Action.outcome (select evaluator context default (candidates ++ [])) session =
      (default, session.evaluating (evaluationsOf evaluator context candidates)) :=
    outcome_select_append [] fail
  rwa [List.append_nil] at passed

/--
The first style whose condition holds is chosen, and the default where there is none.
What is evaluated are the conditions up to it that are not blank, in their order and
once each.  The choice stays the same when styles that do not hold are put in before
it, and whatever stands behind it.
-/
theorem select_takes_first_that_holds (evaluator : Evaluator) (context : Context)
    (default : Option WidgetStyle) (session : Session) :
    let chosen := fun candidates =>
      Action.outcome (select evaluator context default candidates) session
    let holds := fun candidate : ConditionalStyle =>
      candidate.Holds evaluator session.edits context
    (∀ before first after, (∀ candidate ∈ before, ¬ holds candidate) → holds first →
      chosen (before ++ first :: after) =
        (some first.style,
          session.evaluating (evaluationsOf evaluator context (before ++ [first])))) ∧
      (∀ candidates, (∀ candidate ∈ candidates, ¬ holds candidate) →
        chosen candidates =
          (default, session.evaluating (evaluationsOf evaluator context candidates))) ∧
      ∀ before first after more other, (∀ candidate ∈ more, ¬ holds candidate) →
        holds first → before.Sublist more →
          (chosen (more ++ first :: other)).1 = (chosen (before ++ first :: after)).1 := by
  intro chosen holds
  have chooses : ∀ before first after, (∀ candidate ∈ before, ¬ holds candidate) → holds first →
      chosen (before ++ first :: after) =
        (some first.style,
          session.evaluating (evaluationsOf evaluator context (before ++ [first]))) :=
    fun _ _ after fail firstHolds => outcome_select_of_first after fail firstHolds
  refine ⟨chooses, fun _ fail => outcome_select_of_none fail, ?_⟩
  intro before first after more other fail firstHolds fewer
  have failBefore : ∀ candidate ∈ before, ¬ holds candidate :=
    fun candidate member => fail candidate (fewer.subset member)
  rw [chooses more first other fail firstHolds, chooses before first after failBefore firstHolds]

/-- A loan is late, as a text says, and its title is no truth value; of the others there is no answer. -/
def lateLoan : Evaluator where
  answer _ _ expression :=
    if expression = "self.late" then .of (.text " true\n")
    else if expression = "self.title" then .of (.text "yes")
    else .absent

/-- The blank, the unanswered and the textual condition do not hold, and the second match is not looked at. -/
theorem select_takes_late_style :
    let red : WidgetStyle := { foregroundColor := some "red" }
    let late : ConditionalStyle := ⟨"self.late", red⟩
    let before : List ConditionalStyle :=
      [⟨" ", { bold := true }⟩, ⟨"self.ghost", { bold := true }⟩, ⟨"self.title", { bold := true }⟩]
    let chosen := Action.outcome
      (select lateLoan Context.empty none (before ++ [late, ⟨"self.late", {}⟩])) {}
    (∀ candidate ∈ before, ¬ candidate.Holds lateLoan [] Context.empty) ∧
      late.Holds lateLoan [] Context.empty ∧ chosen.1 = some red ∧
      chosen.2.evaluations.map Evaluation.expression =
        ["self.ghost", "self.title", "self.late"] ∧
      (Action.outcome (select lateLoan Context.empty none [late]) {}).1 = chosen.1 := by
  intro red late before chosen
  have fail : ∀ candidate ∈ before, ¬ candidate.Holds lateLoan [] Context.empty := by decide
  have holds : late.Holds lateLoan [] Context.empty := by decide
  obtain ⟨chooses, _, insensitive⟩ :=
    select_takes_first_that_holds lateLoan Context.empty none {}
  have choice : chosen = (some red,
      Session.evaluating {} (evaluationsOf lateLoan Context.empty (before ++ [late]))) :=
    chooses before late [⟨"self.late", {}⟩] fail holds
  refine ⟨fail, holds, congrArg Prod.fst choice, ?_, ?_⟩
  · rw [choice]
    decide
  · exact (insensitive [] late [] before [⟨"self.late", {}⟩] fail holds (List.nil_sublist _)).symm

end WidgetStyle

end FormWidgets
