import FormWidgets.ChildCreation.Key
import FormWidgets.Collaborator
import FormWidgets.TypeSystem.Lineage

/-!
# Offered child creations

Where a new element can be created under a container: every containment
relation of the container combined with every instantiable subtype of the
reference type that the relation can hold.  The places carry distinct keys and
are listed by label; places with equal labels keep the order of enumeration.
-/

namespace FormWidgets

/-- Which subtypes of a reference type are offered. -/
inductive SubtypeScope where
  /-- Those in the namespace of the reference type. -/
  | definingNamespace
  /-- All registered ones. -/
  | registry
deriving DecidableEq, Repr

namespace ChildCreation

/-- A place where a new element can be created. -/
structure Offer where
  key : String
  label : String
  iconPaths : List String
deriving DecidableEq, Repr

/-- What offers are computed from. -/
structure Catalogue where
  registry : TypeRegistry
  objects : ObjectService
  scope : SubtypeScope

namespace Catalogue

variable (catalogue : Catalogue)

/-- The namespace that subtypes are restricted to. -/
def searchedSpace (reference : DomainType) : Option String :=
  match catalogue.scope with
  | .definingNamespace => some reference.typeName.space
  | .registry => none

/-- The instantiable subtypes of a reference type in scope. -/
def instantiableSubtypes (reference : DomainType) : List DomainType :=
  (catalogue.registry.subtypes reference (catalogue.searchedSpace reference)).filter
    DomainType.isInstantiable

/-- A subtype's simple name within the reference namespace, its qualified name outside. -/
def shownTypeName (reference subtype : DomainType) : String :=
  if subtype.typeName.space = reference.typeName.space then subtype.typeName.name
  else subtype.qualifiedName

/-- The icons of a type, looked up on a detached instance. -/
def iconPaths (type : DomainType) : List String :=
  match catalogue.registry.transientInstance? type with
  | some node => catalogue.objects.iconPaths node
  | none => []

/-- The offer for a relation and a subtype. -/
def offer (reference : DomainType) (relation : ContainmentRelation)
    (subtype : DomainType) : Offer :=
  let shown := shownTypeName reference subtype
  { key := encodeKey relation.name shown
    label := shown ++ " (in " ++ relation.name ++ ")"
    iconPaths := catalogue.iconPaths subtype }

/-- All places under a container, relation by relation and then subtype by subtype. -/
def enumerate (container reference : DomainType) : List Offer :=
  (catalogue.registry.containmentRelations container).flatMap fun relation =>
    ((catalogue.instantiableSubtypes reference).filter fun subtype =>
      catalogue.registry.isAssignable relation.target subtype).map fun subtype =>
        catalogue.offer reference relation subtype

/-- Keep the first offer of each key. -/
def firstOfEachKey : List Offer → List Offer
  | [] => []
  | offer :: rest =>
      offer :: (firstOfEachKey rest).filter fun other => decide (other.key ≠ offer.key)

/-- Order offers by label, keeping the order of those with equal labels. -/
def sortByLabel (offers : List Offer) : List Offer :=
  offers.mergeSort fun left right => decide (left.label ≤ right.label)

/-- The offers for a container and a reference type. -/
def offersFor (container reference : DomainType) : List Offer :=
  sortByLabel (firstOfEachKey (catalogue.enumerate container reference))

/-- The offers for the named types of a container and a reference, with the log of the search. -/
def offers (kind referenceKind : String) : Action (List Offer) := do
  Action.logEvent (.start (some .childCreation) "child_creation_descriptions" none none
    [("kind", kind), ("reference_kind", referenceKind)])
  let skip (result : Except EngineError DomainType) : Action Unit :=
    match result with
    | .ok _ => pure ()
    | .error error =>
        Action.logEvent (.note "child creation skipped" none [("error", error.message)])
  let found ←
    match catalogue.registry.resolve kind, catalogue.registry.resolve referenceKind with
    | .ok container, .ok reference => pure (catalogue.offersFor container reference)
    | container, reference => do
        skip container
        skip reference
        pure []
  Action.logEvent (.finish (some .childCreation) "child_creation_descriptions" none none
    [("candidate_count", toString found.length)])
  pure found

/-- Creation at the root of the domain graph is never offered. -/
def rootOffers (namespaces : List String) : Action (List Offer) := do
  Action.logEvent (.note "root object creation is not supported" none
    [("namespaces", toString namespaces.length)])
  pure []

/-- Creation at the root of the domain graph is always declined. -/
def createRoot (key : String) (namespaces : List String) : Action (Option Node) := do
  Action.logEvent (.note "root object creation declined" none
    [("key", key), ("namespaces", toString namespaces.length)])
  pure none

end Catalogue

end ChildCreation

end FormWidgets
