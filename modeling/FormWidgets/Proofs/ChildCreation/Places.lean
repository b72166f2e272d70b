import FormWidgets.ChildCreation.Offer
import FormWidgets.Proofs.Session.Outcome
import Mathlib

/-!
# Places where elements can be created

The offers for a container and a reference type are read against the places
themselves: a containment relation of the container together with a registered
type that it can hold.  Nothing is offered but such places, every key of a place
is offered once, offers are sorted by label, and those with equal labels keep
the order in which their keys first occur among the places.
-/

namespace FormWidgets

/-- The registered types in order of registration. -/
def TypeRegistry.types (registry : TypeRegistry) : List DomainType :=
  registry.definitions.map TypeDefinition.type

namespace ChildCreation.Catalogue

variable (catalogue : Catalogue)

/-- A new element of a type may stand under a relation, where a reference type is asked for. -/
structure IsPlace (reference : DomainType) (relation : ContainmentRelation)
    (subtype : DomainType) : Prop where
  registered : subtype ∈ catalogue.registry.types
  notAbstract : subtype.isAbstract = false
  notInterface : subtype.isInterface = false
  inScope : catalogue.scope = .definingNamespace →
    subtype.typeName.space = reference.typeName.space
  ofReference : catalogue.registry.isAssignable reference subtype = true
  ofTarget : catalogue.registry.isAssignable relation.target subtype = true

theorem isPlace_iff (reference : DomainType) (relation : ContainmentRelation)
    (subtype : DomainType) :
    catalogue.IsPlace reference relation subtype ↔
      subtype ∈ catalogue.registry.types ∧
        subtype.isAbstract = false ∧ subtype.isInterface = false ∧
        (catalogue.scope = .definingNamespace →
          subtype.typeName.space = reference.typeName.space) ∧
        catalogue.registry.isAssignable reference subtype = true ∧
        catalogue.registry.isAssignable relation.target subtype = true := by
  constructor
  · rintro ⟨registered, notAbstract, notInterface, inScope, ofReference, ofTarget⟩
    exact ⟨registered, notAbstract, notInterface, inScope, ofReference, ofTarget⟩
  · rintro ⟨registered, notAbstract, notInterface, inScope, ofReference, ofTarget⟩
    exact ⟨registered, notAbstract, notInterface, inScope, ofReference, ofTarget⟩

instance (reference : DomainType) (relation : ContainmentRelation) (subtype : DomainType) :
    Decidable (catalogue.IsPlace reference relation subtype) :=
  decidable_of_iff' _ (catalogue.isPlace_iff reference relation subtype)

/--
The key of a place: the relation and the type, by its simple name in the
namespace of the reference type and by its qualified name outside.
-/
def placeKey (reference : DomainType) (relation : ContainmentRelation)
    (subtype : DomainType) : String :=
  encodeKey relation.name
    (if subtype.typeName.space = reference.typeName.space then subtype.typeName.name
      else subtype.qualifiedName)

/-- The types that may stand under a relation, in order of registration. -/
def placesUnder (reference : DomainType) (relation : ContainmentRelation) :
    List DomainType :=
  catalogue.registry.types.filter fun subtype =>
    decide (catalogue.IsPlace reference relation subtype)

/-- The keys of all places, relation by relation and then type by type, repeated ones included. -/
def placeKeys (container reference : DomainType) : List String :=
  (catalogue.registry.containmentRelations container).flatMap fun relation =>
    (catalogue.placesUnder reference relation).map (placeKey reference relation)

/-- The offers for all places in the same order, repeated keys included. -/
def placeOffers (container reference : DomainType) : List Offer :=
  (catalogue.registry.containmentRelations container).flatMap fun relation =>
    (catalogue.placesUnder reference relation).map (catalogue.offer reference relation)

/-- A list offers the places of a container, each key once and in the documented order. -/
structure OffersPlaces (container reference : DomainType) (listed : List Offer) : Prop where
  mem_keys_iff : ∀ key, key ∈ listed.map Offer.key ↔
    ∃ relation ∈ catalogue.registry.containmentRelations container,
      ∃ subtype, catalogue.IsPlace reference relation subtype ∧
        key = placeKey reference relation subtype
  ofFirstPlace : ∀ offer ∈ listed,
    (catalogue.placeOffers container reference).find?
      (fun other => decide (other.key = offer.key)) = some offer
  nodup_keys : (listed.map Offer.key).Nodup
  byLabel : listed.Pairwise fun left right => left.label ≤ right.label
  byOccurrence : listed.Pairwise fun left right =>
    left.label = right.label →
      (catalogue.placeKeys container reference).idxOf left.key <
        (catalogue.placeKeys container reference).idxOf right.key

/-! ## Enumeration -/

theorem mem_placesUnder {reference subtype : DomainType} {relation : ContainmentRelation} :
    subtype ∈ catalogue.placesUnder reference relation ↔
      catalogue.IsPlace reference relation subtype := by
  rw [placesUnder, List.mem_filter, decide_eq_true_iff]
  constructor
  · rintro ⟨_, place⟩
    exact place
  · intro place
    exact ⟨place.registered, place⟩

/-- A subtype is searched when the scope does not exclude its namespace. -/
theorem searchedSpace_all_iff (reference subtype : DomainType) :
    (catalogue.searchedSpace reference).all
        (fun space => decide (subtype.typeName.space = space)) = true ↔
      (catalogue.scope = .definingNamespace →
        subtype.typeName.space = reference.typeName.space) := by
  cases scope : catalogue.scope with
  | definingNamespace => simp [searchedSpace, scope]
  | registry => simp [searchedSpace, scope]

theorem isPlace_decide_eq {subtype : DomainType} (reference : DomainType)
    (relation : ContainmentRelation) (registered : subtype ∈ catalogue.registry.types) :
    (catalogue.registry.isAssignable relation.target subtype && subtype.isInstantiable &&
        ((catalogue.searchedSpace reference).all
            (fun space => decide (subtype.typeName.space = space)) &&
          catalogue.registry.isAssignable reference subtype)) =
      decide (catalogue.IsPlace reference relation subtype) := by
  rw [Bool.eq_iff_iff, decide_eq_true_iff, isPlace_iff]
  simp only [Bool.and_eq_true, searchedSpace_all_iff, DomainType.isInstantiable,
    Bool.not_eq_true']
  constructor
  · rintro ⟨⟨ofTarget, notAbstract, notInterface⟩, inScope, ofReference⟩
    exact ⟨registered, notAbstract, notInterface, inScope, ofReference, ofTarget⟩
  · rintro ⟨_, notAbstract, notInterface, inScope, ofReference, ofTarget⟩
    exact ⟨⟨ofTarget, notAbstract, notInterface⟩, inScope, ofReference⟩

/-- The three filters of the enumeration leave the places under a relation. -/
theorem filter_instantiableSubtypes (reference : DomainType) (relation : ContainmentRelation) :
    ((catalogue.instantiableSubtypes reference).filter fun subtype =>
        catalogue.registry.isAssignable relation.target subtype) =
      catalogue.placesUnder reference relation := by
  rw [instantiableSubtypes, TypeRegistry.subtypes, List.filter_filter, List.filter_filter]
  exact List.filter_congr fun subtype registered =>
    catalogue.isPlace_decide_eq reference relation registered

/-- The enumeration lists the offers for the places and nothing else. -/
theorem enumerate_eq_placeOffers (container reference : DomainType) :
    catalogue.enumerate container reference = catalogue.placeOffers container reference := by
  simp only [enumerate, placeOffers, filter_instantiableSubtypes]

theorem keys_placeOffers (container reference : DomainType) :
    (catalogue.placeOffers container reference).map Offer.key =
      catalogue.placeKeys container reference := by
  simp only [placeOffers, placeKeys, List.map_flatMap, List.map_map]
  rfl

theorem mem_placeKeys {container reference : DomainType} {key : String} :
    key ∈ catalogue.placeKeys container reference ↔
      ∃ relation ∈ catalogue.registry.containmentRelations container,
        ∃ subtype, catalogue.IsPlace reference relation subtype ∧
          key = placeKey reference relation subtype := by
  simp only [placeKeys, List.mem_flatMap, List.mem_map, mem_placesUnder]
  constructor
  · rintro ⟨relation, declared, subtype, place, rfl⟩
    exact ⟨relation, declared, subtype, place, rfl⟩
  · rintro ⟨relation, declared, subtype, place, rfl⟩
    exact ⟨relation, declared, subtype, place, rfl⟩

/-! ## First offers of each key -/

theorem firstOfEachKey_sublist (offers : List Offer) :
    (firstOfEachKey offers).Sublist offers := by
  induction offers with
  | nil => exact .slnil
  | cons offer rest step => exact (List.filter_sublist.trans step).cons_cons offer

theorem mem_keys_firstOfEachKey {offers : List Offer} {key : String} :
    key ∈ (firstOfEachKey offers).map Offer.key ↔ key ∈ offers.map Offer.key := by
  induction offers with
  | nil => rfl
  | cons offer rest step =>
      constructor
      · exact fun listed => ((firstOfEachKey_sublist _).map Offer.key).subset listed
      · intro listed
        by_cases same : key = offer.key
        · rw [same]
          exact List.mem_map_of_mem List.mem_cons_self
        · have listedLater : key ∈ rest.map Offer.key := by
            simpa [same] using listed
          obtain ⟨other, member, rfl⟩ := List.mem_map.mp (step.mpr listedLater)
          refine List.mem_map_of_mem (List.mem_cons_of_mem _ ?_)
          exact List.mem_filter.mpr ⟨member, decide_eq_true same⟩

/-- A kept offer is the first one of its key. -/
theorem find?_of_mem_firstOfEachKey {offers : List Offer} {offer : Offer}
    (kept : offer ∈ firstOfEachKey offers) :
    offers.find? (fun other => decide (other.key = offer.key)) = some offer := by
  induction offers with
  | nil => cases kept
  | cons first rest step =>
      rcases List.mem_cons.mp kept with rfl | keptLater
      · exact List.find?_cons_of_pos (decide_eq_true rfl)
      · obtain ⟨member, otherKey⟩ := List.mem_filter.mp keptLater
        have notFirst : first.key ≠ offer.key := (of_decide_eq_true otherKey).symm
        simpa [notFirst] using step member

/-- The kept offers stand in the order in which their keys first occur. -/
theorem firstOfEachKey_pairwise (offers : List Offer) :
    (firstOfEachKey offers).Pairwise fun left right =>
      (offers.map Offer.key).idxOf left.key < (offers.map Offer.key).idxOf right.key := by
  induction offers with
  | nil => exact .nil
  | cons offer rest step =>
      have other {later : Offer}
          (kept : later ∈ (firstOfEachKey rest).filter
            fun other => decide (other.key ≠ offer.key)) : offer.key ≠ later.key :=
        fun same => of_decide_eq_true (List.mem_filter.mp kept).2 same.symm
      refine List.pairwise_cons.mpr ⟨?_, ?_⟩
      · intro later kept
        rw [List.map_cons, List.idxOf_cons_self, List.idxOf_cons_ne _ (other kept)]
        exact Nat.succ_pos _
      · refine List.Pairwise.imp_of_mem ?_ (step.filter _)
        intro left right leftKept rightKept before
        rw [List.map_cons, List.idxOf_cons_ne _ (other leftKept),
          List.idxOf_cons_ne _ (other rightKept)]
        exact Nat.succ_lt_succ before

theorem nodup_keys_firstOfEachKey (offers : List Offer) :
    ((firstOfEachKey offers).map Offer.key).Nodup := by
  refine List.pairwise_map.mpr ((firstOfEachKey_pairwise offers).imp ?_)
  intro left right before same
  rw [same] at before
  exact Nat.lt_irrefl _ before

/-! ## Sorting by label -/

theorem label_trans (first second third : Offer)
    (left : decide (first.label ≤ second.label) = true)
    (right : decide (second.label ≤ third.label) = true) :
    decide (first.label ≤ third.label) = true :=
  decide_eq_true (String.le_trans (of_decide_eq_true left) (of_decide_eq_true right))

theorem label_total (left right : Offer) :
    (decide (left.label ≤ right.label) || decide (right.label ≤ left.label)) = true := by
  rw [Bool.or_eq_true, decide_eq_true_iff, decide_eq_true_iff]
  exact String.le_total left.label right.label

theorem sortByLabel_perm (offers : List Offer) : (sortByLabel offers).Perm offers :=
  List.mergeSort_perm _ _

theorem sortByLabel_pairwise (offers : List Offer) :
    (sortByLabel offers).Pairwise fun left right => left.label ≤ right.label :=
  (List.pairwise_mergeSort label_trans label_total offers).imp of_decide_eq_true

/-- Sorting keeps the offers of one label in the order in which they stood. -/
theorem filter_sortByLabel (offers : List Offer) (label : String) :
    (sortByLabel offers).filter (fun offer => decide (offer.label = label)) =
      offers.filter (fun offer => decide (offer.label = label)) := by
  have oneLabel : (offers.filter fun offer => decide (offer.label = label)).Pairwise
      fun left right => decide (left.label ≤ right.label) = true := by
    refine List.pairwise_of_forall_mem_list fun left leftKept right rightKept => ?_
    have leftLabel : left.label = label := of_decide_eq_true (List.mem_filter.mp leftKept).2
    have rightLabel : right.label = label := of_decide_eq_true (List.mem_filter.mp rightKept).2
    have sameLabel : left.label = right.label := leftLabel.trans rightLabel.symm
    exact decide_eq_true (sameLabel ▸ String.le_refl left.label)
  have kept := (List.sublist_mergeSort label_trans label_total oneLabel
    List.filter_sublist).filter fun offer => decide (offer.label = label)
  rw [List.filter_filter] at kept
  simp only [Bool.and_self] at kept
  have sameOffers := (sortByLabel_perm offers).filter fun offer => decide (offer.label = label)
  exact (kept.eq_of_length sameOffers.length_eq.symm).symm

/-- What holds along a list still holds, after sorting, among the offers of one label. -/
theorem sortByLabel_stable {offers : List Offer} {related : Offer → Offer → Prop}
    (along : offers.Pairwise related) :
    (sortByLabel offers).Pairwise fun left right =>
      left.label = right.label → related left right := by
  refine List.pairwise_iff_forall_sublist.mpr fun {left right} both sameLabel => ?_
  have bothOfLabel : [left, right].Sublist
      (offers.filter fun offer => decide (offer.label = right.label)) := by
    rw [← filter_sortByLabel]
    simpa [sameLabel] using both.filter fun offer => decide (offer.label = right.label)
  exact List.pairwise_iff_forall_sublist.mp along (bothOfLabel.trans List.filter_sublist)

/-! ## Offers -/

theorem outcome_offers (kind referenceKind : String) (session : Session) :
    (Action.outcome (catalogue.offers kind referenceKind) session).1 =
      match catalogue.registry.resolve kind, catalogue.registry.resolve referenceKind with
      | .ok container, .ok reference => catalogue.offersFor container reference
      | _, _ => [] := by
  rw [offers]
  rcases catalogue.registry.resolve kind with error | container
  · rfl
  · rcases catalogue.registry.resolve referenceKind with error | reference
    · rfl
    · rfl

theorem offersPlaces_offersFor (container reference : DomainType) :
    catalogue.OffersPlaces container reference (catalogue.offersFor container reference) := by
  have sameOffers := sortByLabel_perm (firstOfEachKey (catalogue.placeOffers container reference))
  rw [offersFor, enumerate_eq_placeOffers]
  constructor
  case mem_keys_iff =>
    intro key
    rw [(sameOffers.map Offer.key).mem_iff, mem_keys_firstOfEachKey, keys_placeOffers,
      mem_placeKeys]
  case ofFirstPlace =>
    intro offer listed
    exact find?_of_mem_firstOfEachKey (sameOffers.mem_iff.mp listed)
  case nodup_keys =>
    exact (sameOffers.map Offer.key).nodup_iff.mpr (nodup_keys_firstOfEachKey _)
  case byLabel =>
    exact sortByLabel_pairwise _
  case byOccurrence =>
    have inOrder := firstOfEachKey_pairwise (catalogue.placeOffers container reference)
    rw [keys_placeOffers] at inOrder
    exact sortByLabel_stable inOrder

/--
Nothing is offered for a name that names no type, and for two types exactly the
places of the container are offered: every key once, by label, and within one
label in the order in which the keys first occur.
-/
theorem offers_eq_nil_or_offersPlaces (kind referenceKind : String) (session : Session) :
    ((∃ error, catalogue.registry.resolve kind = .error error) ∨
        (∃ error, catalogue.registry.resolve referenceKind = .error error) →
      (Action.outcome (catalogue.offers kind referenceKind) session).1 = []) ∧
    ∀ container reference,
      catalogue.registry.resolve kind = .ok container →
      catalogue.registry.resolve referenceKind = .ok reference →
      catalogue.OffersPlaces container reference
        (Action.outcome (catalogue.offers kind referenceKind) session).1 := by
  rw [outcome_offers]
  constructor
  · rintro (⟨error, unresolved⟩ | ⟨error, unresolved⟩)
    · rw [unresolved]
    · rw [unresolved]
      rcases catalogue.registry.resolve kind with _ | _
      · rfl
      · rfl
  · intro container reference resolved referenceResolved
    rw [resolved, referenceResolved]
    exact catalogue.offersPlaces_offersFor container reference

/-- A library of books, with novels of one simple name in two namespaces. -/
def novelCatalogue : Catalogue where
  registry :=
    (((TypeRegistry.empty.add
      { type := { typeName := ⟨"library", "Book"⟩, isAbstract := true } }).add
      { type := { typeName := ⟨"library", "Library"⟩ },
        relations := [⟨"books", "library::Book", true, true⟩] }).add
      { type := { typeName := ⟨"library", "Novel"⟩ }, supertypes := ["library::Book"] }).add
      { type := { typeName := ⟨"press", "Novel"⟩ }, supertypes := ["library::Book"] }
  objects := ⟨fun _ => "", fun _ => "", fun _ => "", fun _ => []⟩
  scope := .registry

theorem offersPlaces_novelCatalogue :
    (Action.outcome (novelCatalogue.offers "library::Library" "library::Shelf") {}).1 = [] ∧
      novelCatalogue.OffersPlaces { typeName := ⟨"library", "Library"⟩ }
        { typeName := ⟨"library", "Book"⟩, isAbstract := true }
        (Action.outcome (novelCatalogue.offers "library::Library" "library::Book") {}).1 ∧
      (Action.outcome (novelCatalogue.offers "library::Library" "library::Book") {}).1.map
        Offer.key = ["books::Novel", "books::press::Novel"] := by
  refine ⟨?_, ?_, by cbv⟩
  · exact (novelCatalogue.offers_eq_nil_or_offersPlaces "library::Library" "library::Shelf"
      {}).1 (.inr ⟨.unresolvedType "library::Shelf", by decide⟩)
  · exact (novelCatalogue.offers_eq_nil_or_offersPlaces "library::Library" "library::Book"
      {}).2 _ _ (by decide) (by decide)

end ChildCreation.Catalogue

end FormWidgets
