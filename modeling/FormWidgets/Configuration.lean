import FormWidgets.ChildCreation.Offer

/-!
# Configuration

The settings of an engine.  Every setting has a default, so nothing has to be
configured.
-/

namespace FormWidgets

/-- How much is logged and in which form. -/
inductive LogProfile where
  | development
  | production
  | test
deriving DecidableEq, Repr

/-- The settings of an engine. -/
structure Configuration where
  logProfile : LogProfile := .development
  /-- The kinds of sources whose description ids are handled. -/
  acceptedSourceKinds : List String := ["view"]
  subtypeScope : SubtypeScope := .definingNamespace
deriving DecidableEq, Repr

end FormWidgets
