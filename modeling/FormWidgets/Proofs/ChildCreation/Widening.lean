import FormWidgets.Proofs.ChildCreation.KeyReading
import FormWidgets.Proofs.ChildCreation.Places
import FormWidgets.Proofs.TypeSystem.Ancestry
import FormWidgets.Proofs.TypeSystem.NameReading
import Mathlib

/-!
# Widening the scope

Subtypes are searched in the namespace of the reference type or in the whole
registry.  The wider search meets more types on its way, and the types of other
namespaces come with longer keys.  A longer key holds the separator twice, with
a namespace between the two, and so is no key of a simple name, as long as no
name holds the separator and no namespace is empty.

The main statement compares the two searches: the narrow one gives the offers of
the wide one that have one of its own keys, and gives them in the same order.
-/

namespace FormWidgets

namespace TypeRegistry

open ChildCreation (keySeparator)

/-- No type and no relation has the separator in its name, and no namespace is empty. -/
structure NamesPlainly (registry : TypeRegistry) : Prop where
  types : ∀ definition ∈ registry.definitions,
    ¬ keySeparator <:+: definition.type.typeName.name.toList
  spaces : ∀ definition ∈ registry.definitions, definition.type.typeName.space ≠ ""
  relations : ∀ definition ∈ registry.definitions, ∀ relation ∈ definition.relations,
    ¬ keySeparator <:+: relation.name.toList

variable {registry : TypeRegistry}

/-- A containment relation of a type is declared by one of the registered types. -/
theorem exists_declaration_of_mem_containmentRelations {type : DomainType}
    {relation : ContainmentRelation} (listed : relation ∈ registry.containmentRelations type) :
    ∃ definition ∈ registry.definitions, ∃ declaration ∈ definition.relations,
      declaration.name = relation.name := by
  obtain ⟨definition, ancestor, own⟩ := List.mem_flatMap.mp listed
  obtain ⟨declaration, declared, resolved⟩ := List.mem_filterMap.mp own
  obtain ⟨target, _, rfl⟩ := Option.map_eq_some_iff.mp resolved
  exact ⟨definition, registered_of_mem_lineage ancestor, declaration,
    List.mem_of_mem_filter declared, rfl⟩

theorem NamesPlainly.relation_unseparated (plain : registry.NamesPlainly) {type : DomainType}
    {relation : ContainmentRelation} (listed : relation ∈ registry.containmentRelations type) :
    ¬ keySeparator <:+: relation.name.toList := by
  obtain ⟨definition, registered, declaration, declared, sameName⟩ :=
    exists_declaration_of_mem_containmentRelations listed
  exact sameName ▸ plain.relations definition registered declaration declared

end TypeRegistry

namespace ChildCreation

/-! ## Keys of foreign types -/

/-- Behind its namespace, the text of a type name holds the separator. -/
theorem separator_infix_text (typeName : TypeName) :
    keySeparator <:+: typeName.text.toList := by
  rw [eq_encodeKey_iff.mp typeName.text_eq_encodeKey]
  exact ⟨_, _, rfl⟩

/-- With a namespace that is not empty, the separator occurs behind the first character too. -/
theorem separator_infix_of_text_eq_cons {typeName : TypeName} {rest : String}
    (spaced : typeName.space ≠ "") (whole : typeName.text = ":" ++ rest) :
    keySeparator <:+: rest.toList := by
  have written := eq_encodeKey_iff.mp typeName.text_eq_encodeKey
  obtain ⟨first, others, split⟩ :=
    List.exists_cons_of_ne_nil (mt String.toList_eq_nil_iff.mp spaced)
  rw [whole, String.toList_append, encodeChars, split] at written
  obtain ⟨_, sameRest⟩ := List.cons.inj written
  exact ⟨others, typeName.name.toList, sameRest.symm⟩

/-- The key of a type by its qualified name is no key of a type by its simple name. -/
theorem encodeKey_text_ne {relation other simpleName : String} {typeName : TypeName}
    (relationUnseparated : ¬ keySeparator <:+: relation.toList)
    (otherUnseparated : ¬ keySeparator <:+: other.toList)
    (simpleUnseparated : ¬ keySeparator <:+: simpleName.toList)
    (spaced : typeName.space ≠ "") :
    encodeKey relation typeName.text ≠ encodeKey other simpleName := by
  have inside := separator_infix_text typeName
  intro sameKey
  rcases (encodeKey_eq_iff relationUnseparated otherUnseparated).mp sameKey with
    ⟨_, rfl⟩ | ⟨_, moved⟩ | ⟨_, rfl⟩
  · exact simpleUnseparated inside
  · exact simpleUnseparated (separator_infix_of_text_eq_cons spaced moved)
  · rw [String.toList_append] at simpleUnseparated
    exact simpleUnseparated (inside.trans (List.suffix_append _ _).isInfix)

namespace Catalogue

/-! ## Restricting offers to keys -/

/-- Among offers with the kept keys, the first of each key are the first ones of all offers. -/
theorem firstOfEachKey_filter (keeps : String → Bool) (offers : List Offer) :
    firstOfEachKey (offers.filter fun offer => keeps offer.key) =
      (firstOfEachKey offers).filter fun offer => keeps offer.key := by
  induction offers with
  | nil => rfl
  | cons offer rest step =>
      cases kept : keeps offer.key with
      | true =>
          simp only [List.filter_cons, kept, firstOfEachKey, step, ↓reduceIte]
          rw [List.filter_comm]
      | false =>
          simp only [List.filter_cons, kept, firstOfEachKey, step, Bool.false_eq_true, ↓reduceIte]
          rw [List.filter_filter]
          refine List.filter_congr fun other _ => ?_
          -- An offer with a kept key has another key than the one that is left out.
          by_cases sameKey : other.key = offer.key
          · rw [sameKey, kept, Bool.false_and]
          · rw [decide_eq_true sameKey, Bool.and_true]

/-- Offers in an order of their own stand in that order within each label after sorting. -/
theorem sortByLabel_pairwise_of_position {offers : List Offer} {position : Offer → Nat}
    (along : offers.Pairwise fun left right => position left < position right) :
    (sortByLabel offers).Pairwise fun left right =>
      left.label ≤ right.label ∧ (left.label = right.label → position left < position right) :=
  (sortByLabel_pairwise offers).and (sortByLabel_stable along)

/-- Leaving offers out before sorting or after it makes no difference. -/
theorem sortByLabel_filter (keeps : Offer → Bool) {offers : List Offer} {position : Offer → Nat}
    (along : offers.Pairwise fun left right => position left < position right) :
    sortByLabel (offers.filter keeps) = (sortByLabel offers).filter keeps := by
  have sameOffers : (sortByLabel (offers.filter keeps)).Perm
      ((sortByLabel offers).filter keeps) :=
    (sortByLabel_perm _).trans ((sortByLabel_perm offers).filter keeps).symm
  refine sameOffers.eq_of_pairwise ?_ (sortByLabel_pairwise_of_position (along.filter keeps))
    ((sortByLabel_pairwise_of_position along).filter keeps)
  rintro left right _ _ ⟨labelUp, before⟩ ⟨labelDown, after⟩
  have sameLabel := String.le_antisymm labelUp labelDown
  exact absurd (before sameLabel) (Nat.lt_asymm (after sameLabel.symm))

/-! ## The two scopes -/

variable {registry : TypeRegistry} {objects : ObjectService}

/-- The places of the narrow scope are those of the wide one with a type of the reference namespace. -/
theorem isPlace_definingNamespace_iff {reference subtype : DomainType}
    {relation : ContainmentRelation} :
    (Catalogue.mk registry objects .definingNamespace).IsPlace reference relation subtype ↔
      (Catalogue.mk registry objects .registry).IsPlace reference relation subtype ∧
        subtype.typeName.space = reference.typeName.space := by
  constructor
  · intro place
    exact ⟨{ place with inScope := fun narrow => nomatch narrow }, place.inScope rfl⟩
  · rintro ⟨place, sameSpace⟩
    exact { place with inScope := fun _ => sameSpace }

/-- A place of the wide scope has a key of the narrow one only if it is a place of the narrow one. -/
theorem isPlace_definingNamespace_of_mem_placeKeys (plain : registry.NamesPlainly)
    {container reference subtype : DomainType} {relation : ContainmentRelation}
    (listed : relation ∈ registry.containmentRelations container)
    (place : (Catalogue.mk registry objects .registry).IsPlace reference relation subtype)
    (shared : placeKey reference relation subtype ∈
      (Catalogue.mk registry objects .definingNamespace).placeKeys container reference) :
    (Catalogue.mk registry objects .definingNamespace).IsPlace reference relation subtype := by
  refine isPlace_definingNamespace_iff.mpr ⟨place, ?_⟩
  by_contra foreign
  obtain ⟨other, otherListed, simple, simplePlace, sameKey⟩ := mem_placeKeys _ |>.mp shared
  obtain ⟨definition, registered, rfl⟩ := List.mem_map.mp place.registered
  obtain ⟨simpleDefinition, simpleRegistered, rfl⟩ := List.mem_map.mp simplePlace.registered
  rw [placeKey, if_neg foreign, placeKey, if_pos (simplePlace.inScope rfl)] at sameKey
  exact encodeKey_text_ne (plain.relation_unseparated listed)
    (plain.relation_unseparated otherListed) (plain.types _ simpleRegistered)
    (plain.spaces _ registered) sameKey

/-- The offers for the places of the narrow scope are those of the wide one with its keys. -/
theorem placeOffers_definingNamespace (plain : registry.NamesPlainly)
    (container reference : DomainType) :
    (Catalogue.mk registry objects .definingNamespace).placeOffers container reference =
      ((Catalogue.mk registry objects .registry).placeOffers container reference).filter
        fun offer => decide (offer.key ∈
          (Catalogue.mk registry objects .definingNamespace).placeKeys container reference) := by
  simp only [placeOffers, List.filter_flatMap]
  refine List.flatMap_congr fun relation listed => ?_
  rw [List.filter_map, placesUnder, placesUnder, List.filter_filter]
  refine congrArg (List.map _) (List.filter_congr fun subtype _ => ?_)
  rw [Bool.eq_iff_iff, Bool.and_eq_true, Function.comp_apply, decide_eq_true_iff,
    decide_eq_true_iff, decide_eq_true_iff]
  constructor
  · intro place
    exact ⟨(mem_placeKeys _).mpr ⟨relation, listed, subtype, place, rfl⟩,
      (isPlace_definingNamespace_iff.mp place).1⟩
  · rintro ⟨shared, place⟩
    exact isPlace_definingNamespace_of_mem_placeKeys plain listed place shared

theorem offersFor_definingNamespace (plain : registry.NamesPlainly)
    (container reference : DomainType) :
    (Catalogue.mk registry objects .definingNamespace).offersFor container reference =
      ((Catalogue.mk registry objects .registry).offersFor container reference).filter
        fun offer => decide (offer.key ∈
          (Catalogue.mk registry objects .definingNamespace).placeKeys container reference) := by
  rw [offersFor, offersFor, enumerate_eq_placeOffers, enumerate_eq_placeOffers,
    placeOffers_definingNamespace plain, firstOfEachKey_filter
      (fun key => decide (key ∈
        (Catalogue.mk registry objects .definingNamespace).placeKeys container reference))]
  exact sortByLabel_filter _ (firstOfEachKey_pairwise _)

/--
For two names of types, the search in the namespace of the reference type gives
exactly the offers of the search in the whole registry whose keys it has, with
the same labels and icons and in the same order.
-/
theorem offers_definingNamespace_eq_filter (plain : registry.NamesPlainly)
    (objects : ObjectService) (kind referenceKind : String) (session wideSession : Session) :
    let narrow := (Action.outcome
      ((Catalogue.mk registry objects .definingNamespace).offers kind referenceKind) session).1
    let wide := (Action.outcome
      ((Catalogue.mk registry objects .registry).offers kind referenceKind) wideSession).1
    narrow = wide.filter fun offer => decide (offer.key ∈ narrow.map Offer.key) := by
  simp only [outcome_offers]
  cases registry.resolve kind with
  | error error => rfl
  | ok container =>
      cases registry.resolve referenceKind with
      | error error => rfl
      | ok reference =>
          have sameKeys := fun key =>
            (((Catalogue.mk registry objects .definingNamespace).offersPlaces_offersFor container
              reference).mem_keys_iff key).trans (mem_placeKeys _).symm
          simp only [sameKeys]
          exact offersFor_definingNamespace plain container reference

/-- Colons at the ends of names, and a namespace that is one colon. -/
def colonRegistry : TypeRegistry :=
  (((TypeRegistry.empty.add
    { type := { typeName := ⟨"library", "Book"⟩, isAbstract := true } }).add
    { type := { typeName := ⟨"library", "Library"⟩ }
      relations := [⟨"books:", "library::Book", true, true⟩] }).add
    { type := { typeName := ⟨":", "Novel"⟩ }, supertypes := ["library::Book"] }).add
    { type := { typeName := ⟨"library", ":Novel"⟩ }, supertypes := ["library::Book"] }

/-- The foreign novel comes on top of the one in the library, however many colons meet. -/
theorem offers_definingNamespace_colonRegistry :
    let objects : ObjectService := ⟨fun _ => "", fun _ => "", fun _ => "", fun _ => []⟩
    let narrow := (Action.outcome ((Catalogue.mk colonRegistry objects .definingNamespace).offers
      "library::Library" "library::Book") {}).1
    let wide := (Action.outcome ((Catalogue.mk colonRegistry objects .registry).offers
      "library::Library" "library::Book") {}).1
    colonRegistry.NamesPlainly ∧
      narrow.map Offer.key = ["books::::Novel"] ∧
      wide.map Offer.key = ["books::::::Novel", "books::::Novel"] ∧
      narrow = wide.filter fun offer => decide (offer.key ∈ narrow.map Offer.key) := by
  have plain : colonRegistry.NamesPlainly := ⟨by decide, by decide, by decide⟩
  refine ⟨plain, by cbv, by cbv, ?_⟩
  exact offers_definingNamespace_eq_filter plain _ "library::Library" "library::Book" {} {}

end Catalogue

end ChildCreation

end FormWidgets
