import FormWidgets.Proofs.ChildCreation.Places
import FormWidgets.Proofs.TypeSystem.Ancestry
import Mathlib

/-!
# Order of registration

Types are registered one after the other, and a type may name supertypes and
targets that are registered later.  Such names are looked up when they are
needed, so two registries that list the same definitions in different orders
find the same under every name.  From that it follows that they walk through the
same lineages and offer the same places.

What keeps the order of registration are the subtypes of a type, and with them
the order of offers that share a label.
-/

namespace FormWidgets.TypeRegistry

/-! ## Registering a list of types -/

/-- Types are registered in the given order when no name occurs twice. -/
theorem IsBuilt.exists_registerAll_eq_ok {registry : TypeRegistry} (built : registry.IsBuilt)
    {definitions : List TypeDefinition}
    (distinct : ((registry.definitions ++ definitions).map
      fun definition => definition.type.typeName).Nodup) :
    ∃ next, registry.registerAll definitions = .ok next ∧ next.IsBuilt ∧
      next.definitions = registry.definitions ++ definitions := by
  induction definitions generalizing registry with
  | nil => exact ⟨registry, rfl, built, (List.append_nil _).symm⟩
  | cons definition rest later =>
      have unused : definition.type.typeName ∉
          registry.definitions.map fun definition => definition.type.typeName := by
        rw [List.map_append] at distinct
        exact fun listed =>
          (List.nodup_append.mp distinct).2.2 _ listed _ List.mem_cons_self rfl
      have accepted : registry.register definition = .ok (registry.add definition) :=
        register_eq_ok_iff.mpr ⟨built.position?_eq_none_iff.mpr unused, rfl⟩
      have sameList : (registry.add definition).definitions ++ rest =
          registry.definitions ++ definition :: rest := (List.append_cons _ _ _).symm
      obtain ⟨next, registered, nextBuilt, listed⟩ :=
        later (built.register accepted) (sameList ▸ distinct)
      refine ⟨next, ?_, nextBuilt, listed.trans sameList⟩
      rw [registerAll, accepted]
      exact registered

theorem exists_ofList_eq_ok {definitions : List TypeDefinition}
    (distinct : (definitions.map fun definition => definition.type.typeName).Nodup) :
    ∃ registry, ofList definitions = .ok registry ∧ registry.IsBuilt ∧
      registry.definitions = definitions :=
  IsBuilt.empty.exists_registerAll_eq_ok distinct

/-! ## Two orders of the same definitions -/

open ChildCreation

variable {registry other : TypeRegistry}

section Reordered

variable (built : registry.IsBuilt) (otherBuilt : other.IsBuilt)
  (reorders : other.definitions.Perm registry.definitions)

include built otherBuilt reorders

theorem definition?_eq_of_perm (typeName : TypeName) :
    other.definition? typeName = registry.definition? typeName := by
  refine Option.ext fun definition => ?_
  rw [otherBuilt.definition?_eq_some_iff, built.definition?_eq_some_iff, reorders.mem_iff]

theorem named?_eq_of_perm (text : String) : other.named? text = registry.named? text := by
  rw [named?, named?]
  exact congrArg _ (funext (definition?_eq_of_perm built otherBuilt reorders))

theorem supertypesOf_eq_of_perm (definition : TypeDefinition) :
    other.supertypesOf definition = registry.supertypesOf definition := by
  rw [supertypesOf, supertypesOf, funext (named?_eq_of_perm built otherBuilt reorders)]

/-- Walks that have the same names unvisited visit the same definitions in the same order. -/
theorem walk_eq_of_perm {unvisited pending : List TypeDefinition}
    {otherUnvisited : List TypeDefinition} (sameNames : otherUnvisited.Perm unvisited) :
    other.walk otherUnvisited pending = registry.walk unvisited pending := by
  induction unvisited, pending using walk.induct registry generalizing otherUnvisited with
  | case1 unvisited => rw [walk, walk]
  | case2 unvisited definition rest fresh step =>
      have otherFresh := (sameNames.any_eq).trans fresh
      rw [walk_cons_of_unvisited fresh, walk_cons_of_unvisited otherFresh,
        supertypesOf_eq_of_perm built otherBuilt reorders]
      exact congrArg _ (step (sameNames.filter _))
  | case3 unvisited definition rest dropped step =>
      have otherDropped := (sameNames.any_eq).symm ▸ dropped
      rw [walk_cons_of_visited dropped, walk_cons_of_visited otherDropped]
      exact step sameNames

theorem lineage_eq_of_perm (type : DomainType) : other.lineage type = registry.lineage type := by
  rw [lineage, lineage, definition?_eq_of_perm built otherBuilt reorders]
  exact walk_eq_of_perm built otherBuilt reorders reorders

theorem find?_eq_of_perm (typeName : TypeName) : other.find? typeName = registry.find? typeName := by
  rw [find?, find?, definition?_eq_of_perm built otherBuilt reorders]

theorem resolve_eq_of_perm (text : String) : other.resolve text = registry.resolve text := by
  rw [resolve, resolve, funext (find?_eq_of_perm built otherBuilt reorders)]

theorem isAssignable_eq_of_perm (target candidate : DomainType) :
    other.isAssignable target candidate = registry.isAssignable target candidate := by
  rw [isAssignable, isAssignable, lineage_eq_of_perm built otherBuilt reorders]

theorem transientInstance?_eq_of_perm (type : DomainType) :
    other.transientInstance? type = registry.transientInstance? type := by
  rw [transientInstance?, transientInstance?, definition?_eq_of_perm built otherBuilt reorders]

theorem containmentRelations_eq_of_perm (type : DomainType) :
    other.containmentRelations type = registry.containmentRelations type := by
  rw [containmentRelations, containmentRelations, lineage_eq_of_perm built otherBuilt reorders]
  refine congrArg (fun own => (registry.lineage type).flatMap own) (funext fun definition => ?_)
  rw [ownContainmentRelations, ownContainmentRelations,
    funext (named?_eq_of_perm built otherBuilt reorders)]

/-- Subtypes are listed in order of registration, so only as a set are they the same. -/
theorem subtypes_perm_of_perm (type : DomainType) (space : Option String) :
    (other.subtypes type space).Perm (registry.subtypes type space) := by
  rw [subtypes, subtypes, funext (isAssignable_eq_of_perm built otherBuilt reorders type)]
  exact (reorders.map TypeDefinition.type).filter _

/-! ## Offered places -/

variable {objects : ObjectService} {scope : SubtypeScope}

theorem isPlace_iff_of_perm (reference : DomainType) (relation : ContainmentRelation)
    (subtype : DomainType) :
    (Catalogue.mk other objects scope).IsPlace reference relation subtype ↔
      (Catalogue.mk registry objects scope).IsPlace reference relation subtype := by
  have sameTypes : subtype ∈ other.types ↔ subtype ∈ registry.types :=
    (reorders.map TypeDefinition.type).mem_iff
  simp only [Catalogue.isPlace_iff, sameTypes,
    isAssignable_eq_of_perm built otherBuilt reorders]

/-- The same keys are offered, whether or not the names of the two types can be resolved. -/
theorem mem_offeredKeys_iff_of_perm (kind referenceKind : String)
    (session otherSession : Session) (key : String) :
    key ∈ (Action.outcome ((Catalogue.mk other objects scope).offers kind referenceKind)
        otherSession).1.map Offer.key ↔
      key ∈ (Action.outcome ((Catalogue.mk registry objects scope).offers kind referenceKind)
        session).1.map Offer.key := by
  simp only [Catalogue.outcome_offers, resolve_eq_of_perm built otherBuilt reorders]
  cases registry.resolve kind with
  | error error => rfl
  | ok container =>
      cases registry.resolve referenceKind with
      | error error => rfl
      | ok reference =>
          simp only [(Catalogue.offersPlaces_offersFor _ container reference).mem_keys_iff,
            containmentRelations_eq_of_perm built otherBuilt reorders,
            isPlace_iff_of_perm built otherBuilt reorders]

end Reordered

/-- Two registries answer alike, apart from the order in which subtypes are listed. -/
structure AnswersAlike (registry other : TypeRegistry) : Prop where
  find? : ∀ typeName, other.find? typeName = registry.find? typeName
  isAssignable : ∀ target candidate,
    other.isAssignable target candidate = registry.isAssignable target candidate
  transientInstance? : ∀ type, other.transientInstance? type = registry.transientInstance? type
  containmentRelations : ∀ type,
    other.containmentRelations type = registry.containmentRelations type
  subtypes : ∀ type space, (other.subtypes type space).Perm (registry.subtypes type space)
  offeredKeys : ∀ objects scope kind referenceKind session otherSession key,
    key ∈ (Action.outcome ((Catalogue.mk other objects scope).offers kind referenceKind)
        otherSession).1.map Offer.key ↔
      key ∈ (Action.outcome ((Catalogue.mk registry objects scope).offers kind referenceKind)
        session).1.map Offer.key

/--
Types of different names are registered in any order, and the registries of two
orders answer alike: they find the same types and instances, assign the same
types to each other and list the same containment relations; they list the same
subtypes and offer the same keys.
-/
theorem answersAlike_of_perm {definitions reordered : List TypeDefinition}
    (distinct : (definitions.map fun definition => definition.type.typeName).Nodup)
    (reorders : reordered.Perm definitions) :
    ∃ registry other, ofList definitions = .ok registry ∧ ofList reordered = .ok other ∧
      AnswersAlike registry other := by
  obtain ⟨registry, registered, built, listed⟩ := exists_ofList_eq_ok distinct
  obtain ⟨other, otherRegistered, otherBuilt, otherListed⟩ :=
    exists_ofList_eq_ok ((reorders.map _).nodup_iff.mpr distinct)
  have sameDefinitions : other.definitions.Perm registry.definitions := by
    rw [listed, otherListed]
    exact reorders
  refine ⟨registry, other, registered, otherRegistered, ?_⟩
  constructor
  case find? => exact find?_eq_of_perm built otherBuilt sameDefinitions
  case isAssignable => exact isAssignable_eq_of_perm built otherBuilt sameDefinitions
  case transientInstance? => exact transientInstance?_eq_of_perm built otherBuilt sameDefinitions
  case containmentRelations =>
    exact containmentRelations_eq_of_perm built otherBuilt sameDefinitions
  case subtypes => exact subtypes_perm_of_perm built otherBuilt sameDefinitions
  case offeredKeys =>
    intro objects scope kind referenceKind session otherSession key
    exact mem_offeredKeys_iff_of_perm built otherBuilt sameDefinitions kind referenceKind session
      otherSession key

/-- An enclosure holds animals and pets, and visitors of whom no type is registered. -/
def enclosure : TypeDefinition where
  type := { typeName := ⟨"zoo", "Enclosure"⟩ }
  relations :=
    [⟨"animals", "zoo::Animal", true, true⟩, ⟨"visitors", "zoo::Visitor", true, true⟩,
      ⟨"pets", "zoo.Pet", true, true⟩]

def fencedZoo : TypeRegistry :=
  circularZoo.add enclosure

/-- The zoo registered the other way round. -/
def turnedZoo : TypeRegistry :=
  (((empty.add enclosure).add cat).add pet).add animal

/-- The types come in another order; what an enclosure holds and what is offered stay the same. -/
theorem answersAlike_turnedZoo :
    let objects : ObjectService := ⟨fun _ => "", fun _ => "", fun _ => "", fun _ => []⟩
    let keys := fun registry : TypeRegistry =>
      (Action.outcome ((Catalogue.mk registry objects .registry).offers "zoo::Enclosure"
        "zoo::Animal") {}).1.map Offer.key
    let relations : List ContainmentRelation :=
      [⟨"animals", animal.type, true⟩, ⟨"pets", pet.type, true⟩]
    ([animal, pet, cat, enclosure].map fun definition => definition.type.typeName).Nodup ∧
      [enclosure, cat, pet, animal].Perm [animal, pet, cat, enclosure] ∧
      ofList [animal, pet, cat, enclosure] = .ok fencedZoo ∧
      ofList [enclosure, cat, pet, animal] = .ok turnedZoo ∧
      turnedZoo.types ≠ fencedZoo.types ∧ AnswersAlike fencedZoo turnedZoo ∧
      fencedZoo.containmentRelations enclosure.type = relations ∧
      turnedZoo.containmentRelations enclosure.type = relations ∧
      keys fencedZoo = ["animals::Cat", "pets::Cat"] ∧
      "animals::Cat" ∈ keys turnedZoo ∧ "pets::Cat" ∈ keys turnedZoo := by
  intro objects keys relations
  have distinct : ([animal, pet, cat, enclosure].map
      fun definition => definition.type.typeName).Nodup := by
    decide
  have reorders : [enclosure, cat, pet, animal].Perm [animal, pet, cat, enclosure] :=
    List.reverse_perm [animal, pet, cat, enclosure]
  have registered : ofList [animal, pet, cat, enclosure] = .ok fencedZoo := rfl
  have turned : ofList [enclosure, cat, pet, animal] = .ok turnedZoo := rfl
  obtain ⟨registry, other, built, otherBuilt, alike⟩ := answersAlike_of_perm distinct reorders
  obtain rfl := Except.ok.inj (registered.symm.trans built)
  obtain rfl := Except.ok.inj (turned.symm.trans otherBuilt)
  have held : fencedZoo.containmentRelations enclosure.type = relations := by cbv
  have offered : keys fencedZoo = ["animals::Cat", "pets::Cat"] := by
    dsimp only [keys, objects]
    cbv
  have offeredToo : ∀ key ∈ keys fencedZoo, key ∈ keys turnedZoo :=
    fun key => (alike.offeredKeys objects .registry _ _ {} {} key).mpr
  rw [offered] at offeredToo
  refine ⟨distinct, reorders, registered, turned, by decide, alike, held, ?_, offered,
    offeredToo _ List.mem_cons_self, offeredToo _ (List.mem_cons_of_mem _ List.mem_cons_self)⟩
  rw [alike.containmentRelations, held]

end FormWidgets.TypeRegistry
