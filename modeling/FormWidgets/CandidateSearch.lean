import FormWidgets.Collaborator

/-!
# Search for candidates

The nodes a reference may point to are the answer of its search-scope
expression, given by the evaluator of the view that the description lies in,
for a context that binds `self` to the target and nothing else.
-/

namespace FormWidgets

/-- Where candidates are searched: the containment of descriptions and the evaluators of views. -/
structure CandidateSearch where
  links : ContainmentLinks
  evaluators : EvaluatorFactory

namespace CandidateSearch

/-- The nodes that a search-scope expression gives for a target, within the owning view. -/
def find (search : CandidateSearch) (target : Node) (searchScope : Option String)
    (descriptionId : String) : Action (List Node) :=
  match searchScope.filter fun expression => !Text.isBlank expression with
  | none => pure []
  | some expression => do
      Action.logEvent (.start (some .candidateSearch) "find_candidates"
        (some descriptionId) none [])
      let found ←
        match search.links.owningView? descriptionId with
        | some view => do
            let evaluator ← search.evaluators.request view
            let answer ← evaluator.evaluate (Context.ofSelf (.node target)) expression
            pure answer.nodes
        | none => do
            Action.logEvent (.note "no owning view; candidate search skipped"
              (some descriptionId) [])
            pure []
      Action.logEvent (.finish (some .candidateSearch) "find_candidates" none none
        [("candidate_count", toString found.length)])
      pure found

end CandidateSearch

end FormWidgets
