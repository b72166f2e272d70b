import FormWidgets.Proofs.Containment.UpwardWalk
import FormWidgets.Proofs.Widget.BlankExpressions
import FormWidgets.Proofs.Widget.ReferenceKind
import Mathlib

/-!
# Candidates of a reference

The candidates of a reference are searched with the evaluator of the view that the
reference lies in, for the displayed node alone: the other variables of a rendering
do not reach the search.

The main statement says when a search asks for an evaluator and what it evaluates
then, and that a bound reference shows the same candidates in all contexts with the
same `self`.
-/

namespace FormWidgets

theorem Context.find?_ofSelf (value : Value) (name : String) :
    (ofSelf value).find? name = if name = "self" then some value else none :=
  NameMap.find?_put _ _ _ _

theorem Text.filter_of_visible {expression : String} (visible : isBlank expression = false) :
    (some expression).filter (fun text => !isBlank text) = some expression :=
  Option.filter_some_pos (by rw [visible]; rfl)

namespace CandidateSearch

variable (search : CandidateSearch) (target : Node) (searchScope : Option String) (id : String)
  (session : Session)

/-- There is something to search: an expression that is not blank, and a view above the element. -/
structure IsDue (expression : String) (view : ViewRoot) : Prop where
  given : searchScope = some expression
  visible : Text.isBlank expression = false
  leads : ∃ steps, search.links.LeadsTo steps id view

/--
A search asks for the evaluator of the owning view when it is due, and for none
otherwise.  It evaluates the expression as it is written, where `self` is the target
and nothing else is bound.
-/
structure KeepsToView (found : List Node × Session) : Prop where
  searched : ∀ expression view, search.IsDue searchScope id expression view →
    ∃ alone : Context,
      (∀ name, alone.find? name = if name = "self" then some (.node target) else none) ∧
        found.1 = ((search.evaluators view).answer session.edits alone expression).nodes ∧
        found.2.trace = session.trace ++
          [.evaluatorRequested view,
            .evaluated ⟨(search.evaluators view).view, alone, expression⟩]
  skipped : (∀ expression view, ¬ search.IsDue searchScope id expression view) →
    found.1 = [] ∧ found.2.trace = session.trace
  asks_iff : ∀ view, found.2.requestedViews = session.requestedViews ++ [view] ↔
    ∃ expression, search.IsDue searchScope id expression view

variable {search searchScope id}

theorem outcome_find_of_isDue {expression : String} {view : ViewRoot}
    (due : search.IsDue searchScope id expression view) :
    let alone := Context.ofSelf (.node target)
    let found := Action.outcome (search.find target searchScope id) session
    found.1 = ((search.evaluators view).answer session.edits alone expression).nodes ∧
      found.2.trace = session.trace ++
        [.evaluatorRequested view,
          .evaluated ⟨(search.evaluators view).view, alone, expression⟩] := by
  intro alone found
  obtain ⟨rfl, visible, leads⟩ := due
  have kept := Text.filter_of_visible visible
  have owned := ContainmentLinks.owningView?_eq_some_iff.mpr leads
  let asked := session.recorded (.evaluatorRequested view)
  have sameEdits : asked.edits = session.edits :=
    (session.edits_recorded _).trans (List.append_nil _)
  have ended : found.1 = ((search.evaluators view).answer asked.edits alone expression).nodes ∧
      found.2.trace = asked.trace ++
        [.evaluated ⟨(search.evaluators view).view, alone, expression⟩] := by
    simp only [found, find, kept, owned]
    exact ⟨rfl, rfl⟩
  rw [sameEdits, Session.trace_recorded, List.append_assoc] at ended
  exact ended

theorem outcome_find_of_not_isDue
    (notDue : ∀ expression view, ¬ search.IsDue searchScope id expression view) :
    let found := Action.outcome (search.find target searchScope id) session
    found.1 = [] ∧ found.2.trace = session.trace := by
  intro found
  by_cases blank : Text.isBlank? searchScope = true
  · simp only [found, search.find_of_blank target id blank]
    exact ⟨rfl, rfl⟩
  · cases searchScope with
    | none => exact absurd rfl blank
    | some expression =>
        have visible : Text.isBlank expression = false := Bool.eq_false_iff.mpr blank
        have kept := Text.filter_of_visible visible
        have unowned : search.links.owningView? id = none := by
          apply Option.eq_none_iff_forall_ne_some.mpr
          intro view owned
          have leads := ContainmentLinks.owningView?_eq_some_iff.mp owned
          exact notDue expression view ⟨rfl, visible, leads⟩
        simp only [found, find, kept, unowned]
        exact ⟨rfl, rfl⟩

theorem requestedViews_of_trace {session after : Session} {more : List Interaction}
    (trace : after.trace = session.trace ++ more) :
    after.requestedViews =
      session.requestedViews ++ more.filterMap Interaction.requestedView? := by
  rw [Session.requestedViews, trace, List.filterMap_append]
  rfl

theorem requestedViews_find_iff (view : ViewRoot) :
    (Action.outcome (search.find target searchScope id) session).2.requestedViews =
        session.requestedViews ++ [view] ↔
      ∃ expression, search.IsDue searchScope id expression view := by
  constructor
  · intro asked
    by_contra notForView
    by_cases due : ∃ expression other, search.IsDue searchScope id expression other
    · obtain ⟨expression, other, due⟩ := due
      have requested := requestedViews_of_trace
        (outcome_find_of_isDue target session due).2
      rw [asked] at requested
      cases List.append_cancel_left requested
      exact notForView ⟨expression, due⟩
    · have notDue : ∀ expression other, ¬ search.IsDue searchScope id expression other :=
        fun expression other isDue => due ⟨expression, other, isDue⟩
      have same := (outcome_find_of_not_isDue target session notDue).2
      rw [Session.requestedViews, same] at asked
      exact List.cons_ne_nil _ _ (List.self_eq_append_right.mp asked)
  · rintro ⟨expression, due⟩
    exact requestedViews_of_trace (outcome_find_of_isDue target session due).2

theorem keepsToView_find :
    search.KeepsToView target searchScope id session
      (Action.outcome (search.find target searchScope id) session) where
  searched _ _ due :=
    ⟨_, Context.find?_ofSelf (.node target), outcome_find_of_isDue target session due⟩
  skipped := outcome_find_of_not_isDue target session
  asks_iff := requestedViews_find_iff target session

end CandidateSearch

namespace Binder

variable (binder : Binder)

theorem candidatesProvider_of_selfNode? (widget : String) (searchScope : Option String)
    {context : Context} {target : Node} (displayed : context.selfNode? = some target) :
    binder.candidatesProvider widget searchScope context =
      binder.candidateSearch.find target searchScope widget := by
  rw [candidatesProvider, displayed]

theorem candidatesProvider_of_self_eq (widget : String) (searchScope : Option String)
    {first second : Context} (same : first.self? = second.self?) :
    binder.candidatesProvider widget searchScope first =
      binder.candidatesProvider widget searchScope second := by
  rw [candidatesProvider, candidatesProvider, Context.selfNode?, Context.selfNode?, same]

/--
Every search keeps to the view that the element lies in and to the target.  A bound
reference shows what is found for the displayed node, so its candidates depend on no
variable but `self`.
-/
theorem candidates_keep_to_view_and_self (search : CandidateSearch) (binder : Binder) :
    (∀ target searchScope id session,
      search.KeepsToView target searchScope id session
        (Action.outcome (search.find target searchScope id) session)) ∧
      ∀ (description : WidgetDescription) (expressions : ReferenceExpressions) (bound : Session),
        description.detail.referenceExpressions? = some expressions →
        ∃ reference,
          (Action.outcome (binder.bind description) bound).1.detail.reference? = some reference ∧
            (∀ context target, context.selfNode? = some target →
              reference.candidates context =
                binder.candidateSearch.find target expressions.searchScope description.id) ∧
            ∀ first second : Context, first.self? = second.self? →
              reference.candidates first = reference.candidates second := by
  constructor
  · intro target searchScope id session
    exact CandidateSearch.keepsToView_find target session
  · intro description expressions bound isReference
    refine ⟨binder.referenceProviders description.id expressions, ?_, ?_, ?_⟩
    · apply (binder.reference?_boundDetail description.id description.detail).trans
      rw [isReference, Option.map_some]
    · intro context target displayed
      exact binder.candidatesProvider_of_selfNode? _ _ displayed
    · intro first second same
      exact binder.candidatesProvider_of_self_eq _ _ same

/-- A reference to authors, searched for by an expression with blanks around it. -/
def searchedAuthors : WidgetDescription where
  id := "authors"
  name := "authors"
  detail := .multiReference { searchScope := some " self.people " }

/-- The evaluator of the page is asked, two links above, and sees no other variable than `self`. -/
theorem candidates_of_searchedAuthors :
    let page : ViewRoot := ⟨"page", ["people"]⟩
    let people := Value.list [.node ⟨"ada"⟩, .text "unknown", .node ⟨"ben"⟩]
    let host : HostScript :=
      { answers := NameMap.empty.put " self.people " (.node ⟨"nobody"⟩)
        answersByView := NameMap.empty.put "page" (NameMap.empty.put " self.people " people) }
    let binder : Binder :=
      { host.binder fun _ context => pure (some context) with
        links := (NameMap.empty.put "authors" (.element "head")).put "head" (.view page) }
    let plain := Context.ofSelf (.node ⟨"book"⟩)
    let limited : Context := plain.put "limit" (.int 1)
    ∃ reference,
      (Action.outcome (binder.bind searchedAuthors) {}).1.detail.reference? = some reference ∧
        reference.candidates limited = reference.candidates plain ∧
        ∃ alone : Context,
          alone.find? "self" = some (.node ⟨"book"⟩) ∧ alone.find? "limit" = none ∧
            (Action.outcome (reference.candidates limited) {}).1 = [⟨"ada"⟩, ⟨"ben"⟩] ∧
            (Action.outcome (reference.candidates limited) {}).2.trace =
              [.evaluatorRequested page, .evaluated ⟨some page, alone, " self.people "⟩] := by
  intro page people host binder plain limited
  obtain ⟨keeps, shows⟩ := candidates_keep_to_view_and_self binder.candidateSearch binder
  obtain ⟨reference, shown, searches, onlySelf⟩ := shows searchedAuthors _ {} rfl
  have due : binder.candidateSearch.IsDue (some " self.people ") "authors" " self.people " page :=
    ⟨rfl, by decide, 1, .element rfl (.view rfl)⟩
  have same : limited.self? = plain.self? := rfl
  obtain ⟨alone, binds, found, trace⟩ := (keeps ⟨"book"⟩ _ "authors" {}).searched _ _ due
  refine ⟨reference, shown, onlySelf _ _ same, alone, binds "self", binds "limit", ?_, ?_⟩
  · rw [searches limited ⟨"book"⟩ rfl]
    exact found
  · rw [searches limited ⟨"book"⟩ rfl]
    exact trace

end Binder

end FormWidgets
