import FormWidgets.Proofs.ChildCreation.Places
import FormWidgets.Proofs.TypeSystem.Ancestry
import Mathlib

/-!
# Growing registries

A new type may be the one that an older supertype or target has been waiting
for.  Walks through the older types then go other ways, visit more definitions
and come across them in another order.

What they reached before they still reach.  With distinct qualified names a
lineage is read off reachability, and reachability only grows with the
definitions that a registry lists; from there it is followed into assignability,
subtypes, containment relations and the keys of offered places.
-/

namespace FormWidgets.TypeRegistry

open ChildCreation

/-! ## More definitions -/

variable {registry next : TypeRegistry}

section Grown

variable (built : registry.IsBuilt) (nextBuilt : next.IsBuilt)
  (grows : registry.definitions.Sublist next.definitions)

include built nextBuilt grows

theorem definition?_of_grows {typeName : TypeName} {definition : TypeDefinition}
    (found : registry.definition? typeName = some definition) :
    next.definition? typeName = some definition := by
  rw [built.definition?_eq_some_iff] at found
  rw [nextBuilt.definition?_eq_some_iff]
  exact ⟨grows.subset found.1, found.2⟩

theorem named?_of_grows {text : String} {definition : TypeDefinition}
    (found : registry.named? text = some definition) :
    next.named? text = some definition := by
  obtain ⟨typeName, read, listed⟩ := Option.bind_eq_some_iff.mp found
  apply Option.bind_eq_some_iff.mpr
  exact ⟨typeName, read, definition?_of_grows built nextBuilt grows listed⟩

theorem resolve_of_grows {text : String} {type : DomainType}
    (resolved : registry.resolve text = .ok type) : next.resolve text = .ok type := by
  obtain ⟨read, found⟩ := built.resolve_eq_ok_iff.mp resolved
  obtain ⟨definition, listed, sameType⟩ := Option.map_eq_some_iff.mp found
  have listedAgain := definition?_of_grows built nextBuilt grows listed
  apply nextBuilt.resolve_eq_ok_iff.mpr
  exact ⟨read, Option.map_eq_some_iff.mpr ⟨definition, listedAgain, sameType⟩⟩

/-! ## Ancestors -/

theorem hasSupertype_of_grows {lower upper : TypeDefinition}
    (direct : registry.HasSupertype lower upper) : next.HasSupertype lower upper := by
  obtain ⟨text, declared, typeName, read, found⟩ := direct
  exact ⟨text, declared, typeName, read, definition?_of_grows built nextBuilt grows found⟩

theorem isAncestor_of_grows {type : DomainType} {upper : TypeDefinition}
    (ancestor : registry.IsAncestor type upper) : next.IsAncestor type upper := by
  obtain ⟨lower, found, reaches⟩ := ancestor
  have reachesAgain : next.Reaches lower upper := by
    apply Relation.ReflTransGen.mono _ _ _ reaches
    intro middle other direct
    exact hasSupertype_of_grows built nextBuilt grows direct
  exact ⟨lower, definition?_of_grows built nextBuilt grows found, reachesAgain⟩

/-- A relation keeps its target, and relations without a target may get one. -/
theorem ownContainmentRelations_sublist_of_grows (definition : TypeDefinition) :
    (registry.ownContainmentRelations definition).Sublist
      (next.ownContainmentRelations definition) := by
  rw [ownContainmentRelations, ownContainmentRelations, List.filterMap_eq_flatMap_toList,
    List.filterMap_eq_flatMap_toList]
  apply List.Sublist.flatMap_right
  intro relation declared
  cases found : registry.named? relation.target with
  | none => exact List.nil_sublist _
  | some target =>
      rw [named?_of_grows built nextBuilt grows found]

variable (distinct : next.HasDistinctNames)

include distinct

omit built nextBuilt in
theorem hasDistinctNames_of_grows : registry.HasDistinctNames :=
  distinct.sublist (grows.map _)

theorem isAssignable_of_grows {target candidate : DomainType}
    (assignable : registry.isAssignable target candidate = true) :
    next.isAssignable target candidate = true := by
  rw [isAssignable_iff built (hasDistinctNames_of_grows grows distinct)] at assignable
  rw [isAssignable_iff nextBuilt distinct]
  obtain ⟨definition, ancestor, sameType⟩ := assignable
  exact ⟨definition, isAncestor_of_grows built nextBuilt grows ancestor, sameType⟩

/-- The ancestors are visited again, though not always in the order in which they were. -/
theorem lineage_subperm_of_grows (type : DomainType) :
    (registry.lineage type).Subperm (next.lineage type) := by
  have distinctBefore := hasDistinctNames_of_grows grows distinct
  apply List.subperm_of_subset (nodup_lineage built distinctBefore type)
  intro definition visited
  rw [mem_lineage_iff built distinctBefore] at visited
  rw [mem_lineage_iff nextBuilt distinct]
  exact isAncestor_of_grows built nextBuilt grows visited

theorem subtypes_sublist_of_grows (type : DomainType) (space : Option String) :
    (registry.subtypes type space).Sublist (next.subtypes type space) := by
  have listedBefore := (grows.map TypeDefinition.type).filter fun candidate =>
    space.all (fun space => decide (candidate.typeName.space = space))
      && registry.isAssignable type candidate
  apply listedBefore.trans
  apply List.monotone_filter_right
  intro candidate
  simp only [Bool.and_eq_true]
  rintro ⟨inSpace, assignable⟩
  exact ⟨inSpace, isAssignable_of_grows built nextBuilt grows distinct assignable⟩

theorem containmentRelations_subperm_of_grows (type : DomainType) :
    (registry.containmentRelations type).Subperm (next.containmentRelations type) := by
  obtain ⟨visitedAgain, reordered, amongNext⟩ :=
    lineage_subperm_of_grows built nextBuilt grows distinct type
  have sameRelations := reordered.symm.flatMap_right registry.ownContainmentRelations
  have moreDefinitions := amongNext.flatMap registry.ownContainmentRelations
  have moreTargets := List.Sublist.flatMap_right (next.lineage type) fun definition _ =>
    ownContainmentRelations_sublist_of_grows built nextBuilt grows definition
  exact sameRelations.subperm.trans (moreDefinitions.trans moreTargets).subperm

/-! ## Offered places -/

variable {objects : ObjectService} {scope : SubtypeScope}

theorem isPlace_of_grows {reference subtype : DomainType} {relation : ContainmentRelation}
    (place : (Catalogue.mk registry objects scope).IsPlace reference relation subtype) :
    (Catalogue.mk next objects scope).IsPlace reference relation subtype where
  registered := (grows.map TypeDefinition.type).subset place.registered
  notAbstract := place.notAbstract
  notInterface := place.notInterface
  inScope := place.inScope
  ofReference := isAssignable_of_grows built nextBuilt grows distinct place.ofReference
  ofTarget := isAssignable_of_grows built nextBuilt grows distinct place.ofTarget

/-- Both names still resolve to the types that they resolved to, and every place is still one. -/
theorem mem_offeredKeys_of_grows {kind referenceKind : String} (session nextSession : Session)
    {key : String}
    (offered : key ∈ (Action.outcome ((Catalogue.mk registry objects scope).offers kind
      referenceKind) session).1.map Offer.key) :
    key ∈ (Action.outcome ((Catalogue.mk next objects scope).offers kind referenceKind)
      nextSession).1.map Offer.key := by
  rw [Catalogue.outcome_offers] at offered ⊢
  cases kindResolved : registry.resolve kind with
  | error error => simp [kindResolved] at offered
  | ok container =>
      cases referenceResolved : registry.resolve referenceKind with
      | error error => simp [kindResolved, referenceResolved] at offered
      | ok reference =>
          simp only [kindResolved, referenceResolved] at offered
          simp only [resolve_of_grows built nextBuilt grows kindResolved,
            resolve_of_grows built nextBuilt grows referenceResolved]
          rw [(Catalogue.offersPlaces_offersFor _ container reference).mem_keys_iff] at offered ⊢
          obtain ⟨relation, declared, subtype, place, sameKey⟩ := offered
          have stillDeclared :=
            (containmentRelations_subperm_of_grows built nextBuilt grows distinct
              container).subset declared
          exact ⟨relation, stillDeclared, subtype,
            isPlace_of_grows built nextBuilt grows distinct place, sameKey⟩

end Grown

/-- A registry gives all that another one gives. -/
structure Keeps (next registry : TypeRegistry) : Prop where
  resolve : ∀ text type, registry.resolve text = .ok type → next.resolve text = .ok type
  isAssignable : ∀ target candidate,
    registry.isAssignable target candidate = true → next.isAssignable target candidate = true
  subtypes : ∀ type space, (registry.subtypes type space).Sublist (next.subtypes type space)
  /-- Every relation is listed as often as before, or more often. -/
  containmentRelations : ∀ type,
    (registry.containmentRelations type).Subperm (next.containmentRelations type)
  offeredKeys : ∀ objects scope kind referenceKind session nextSession key,
    key ∈ (Action.outcome ((Catalogue.mk registry objects scope).offers kind referenceKind)
        session).1.map Offer.key →
      key ∈ (Action.outcome ((Catalogue.mk next objects scope).offers kind referenceKind)
        nextSession).1.map Offer.key

theorem keeps_of_grows (built : registry.IsBuilt) (nextBuilt : next.IsBuilt)
    (grows : registry.definitions.Sublist next.definitions) (distinct : next.HasDistinctNames) :
    next.Keeps registry := by
  constructor
  case resolve =>
    intro text type
    exact resolve_of_grows built nextBuilt grows
  case isAssignable =>
    intro target candidate
    exact isAssignable_of_grows built nextBuilt grows distinct
  case subtypes => exact subtypes_sublist_of_grows built nextBuilt grows distinct
  case containmentRelations =>
    exact containmentRelations_subperm_of_grows built nextBuilt grows distinct
  case offeredKeys =>
    intro objects scope kind referenceKind session nextSession key
    exact mem_offeredKeys_of_grows built nextBuilt grows distinct session nextSession

/-! ## Registrations -/

theorem definitions_of_register {definition : TypeDefinition}
    (accepted : registry.register definition = .ok next) :
    next.definitions = registry.definitions ++ [definition] := by
  obtain ⟨_, rfl⟩ := register_eq_ok_iff.mp accepted
  rfl

/-- Registrations up to the end of a list put its definitions behind those there are. -/
theorem IsBuilt.registerAll (built : registry.IsBuilt) {definitions : List TypeDefinition}
    (registered : registry.registerAll definitions = .ok next) :
    next.IsBuilt ∧ next.definitions = registry.definitions ++ definitions := by
  induction definitions generalizing registry with
  | nil =>
      cases registered
      exact ⟨built, (List.append_nil _).symm⟩
  | cons definition rest later =>
      rw [TypeRegistry.registerAll] at registered
      cases accepted : registry.register definition with
      | error error =>
          rw [accepted] at registered
          cases registered
      | ok between =>
          rw [accepted] at registered
          obtain ⟨nextBuilt, listed⟩ := later (built.register accepted) registered
          rw [definitions_of_register accepted, ← List.append_cons] at listed
          exact ⟨nextBuilt, listed⟩

/-- Registering a list of types withdraws nothing that was there before the first of them. -/
theorem keeps_of_registerAll (built : registry.IsBuilt) {definitions : List TypeDefinition}
    (registered : registry.registerAll definitions = .ok next)
    (distinct : next.HasDistinctNames) : next.Keeps registry := by
  obtain ⟨nextBuilt, listed⟩ := built.registerAll registered
  apply keeps_of_grows built nextBuilt _ distinct
  rw [listed]
  exact List.sublist_append_left _ _

/-- An accepted registration withdraws nothing, as long as the qualified names stay distinct. -/
theorem keeps_of_register (built : registry.IsBuilt) {definition : TypeDefinition}
    (accepted : registry.register definition = .ok next) (distinct : next.HasDistinctNames) :
    next.Keeps registry := by
  apply keeps_of_grows built (built.register accepted) _ distinct
  rw [definitions_of_register accepted]
  exact List.sublist_append_left _ _

/-- A library holds works and books, but works are not registered yet. -/
def worklessLibrary : TypeRegistry :=
  ((empty.add
    { type := { typeName := ⟨"library", "Library"⟩ }
      relations := [⟨"works", "library::Work", true, true⟩,
        ⟨"books", "library::Book", true, true⟩] }).add
    { type := { typeName := ⟨"library", "Book"⟩, isAbstract := true } }).add
    { type := { typeName := ⟨"library", "Novel"⟩ }
      supertypes := ["library::Work", "library::Book"] }

/-- Works are books too, so the way from novels to books changes. -/
def work : TypeDefinition where
  type := { typeName := ⟨"library", "Work"⟩, isInterface := true }
  supertypes := ["library::Book"]

/-- With works registered there is one more relation, and it comes before the one that is kept. -/
theorem keeps_worklessLibrary :
    let library := worklessLibrary.add work
    let book : DomainType := { typeName := ⟨"library", "Book"⟩, isAbstract := true }
    let novel : DomainType := { typeName := ⟨"library", "Novel"⟩ }
    let relationNames := fun registry : TypeRegistry =>
      (registry.containmentRelations { typeName := ⟨"library", "Library"⟩ }).map
        ContainmentRelation.name
    let objects : ObjectService := ⟨fun _ => "", fun _ => "", fun _ => "", fun _ => []⟩
    let keys := fun registry : TypeRegistry =>
      (Action.outcome ((Catalogue.mk registry objects .registry).offers "library::Library"
        "library::Book") {}).1.map Offer.key
    worklessLibrary.IsBuilt ∧ worklessLibrary.register work = .ok library ∧
      library.HasDistinctNames ∧ library.Keeps worklessLibrary ∧
      worklessLibrary.isAssignable book novel = true ∧ library.isAssignable book novel = true ∧
      worklessLibrary.subtypes book none = [book, novel] ∧
      [book, novel].Sublist (library.subtypes book none) ∧
      relationNames worklessLibrary = ["books"] ∧ relationNames library = ["works", "books"] ∧
      keys worklessLibrary = ["books::Novel"] ∧ "books::Novel" ∈ keys library := by
  intro library book novel relationNames objects keys
  have built : worklessLibrary.IsBuilt := by
    apply IsBuilt.register _ (register_eq_ok_iff.mpr ⟨by decide, rfl⟩)
    apply IsBuilt.register _ (register_eq_ok_iff.mpr ⟨by decide, rfl⟩)
    exact .register .empty (register_eq_ok_iff.mpr ⟨by decide, rfl⟩)
  have accepted : worklessLibrary.register work = .ok library :=
    register_eq_ok_iff.mpr ⟨by decide, rfl⟩
  have distinct : library.HasDistinctNames := by
    rw [HasDistinctNames]
    decide
  have keeps : library.Keeps worklessLibrary := keeps_of_register built accepted distinct
  have assignable : worklessLibrary.isAssignable book novel = true := by cbv
  have below : worklessLibrary.subtypes book none = [book, novel] := by cbv
  have offered : keys worklessLibrary = ["books::Novel"] := by
    dsimp only [keys, objects]
    cbv
  have stillOffered : ∀ key ∈ keys worklessLibrary, key ∈ keys library :=
    fun key => keeps.offeredKeys objects .registry _ _ {} {} key
  refine ⟨built, accepted, distinct, keeps, assignable, keeps.isAssignable _ _ assignable, below,
    ?_, ?_, ?_, offered, ?_⟩
  · rw [← below]
    exact keeps.subtypes book none
  · dsimp only [relationNames]
    cbv
  · dsimp only [relationNames]
    cbv
  · apply stillOffered
    rw [offered]
    exact List.mem_cons_self

end FormWidgets.TypeRegistry
