import FormWidgets.Proofs.TypeSystem.Ancestry
import FormWidgets.Proofs.TypeSystem.NameReading
import FormWidgets.Proofs.TypeSystem.RegistrationCalls
import Mathlib

/-!
# Qualified names of registered types

A registration is refused when namespace and simple name are taken, both of them.
The qualified name is the two joined, and it does not say where they were joined: a
double colon of its own, or a colon at the border, lets two types with different
names be written alike.

The main statement says which types are written alike in spite of the refusals.
Where no namespace has a double colon or a last colon, there are none.
-/

namespace FormWidgets

open ChildCreation (EndsInColon keySeparator encodeChars encodeKey eq_encodeKey_iff
  encodeKey_append_colon)

namespace TypeName

/-- A name is written like another one, with the border between its parts further to the right. -/
inductive IsResplit : TypeName → TypeName → Prop where
  | segment (outer inner name : String) :
      IsResplit ⟨outer, inner ++ "::" ++ name⟩ ⟨outer ++ "::" ++ inner, name⟩
  | colon (space name : String) : IsResplit ⟨space, ":" ++ name⟩ ⟨space ++ ":", name⟩

/-- The namespace holds no double colon, and none begins with its last character. -/
structure HasPlainSpace (typeName : TypeName) : Prop where
  noColon : ¬ EndsInColon typeName.space
  unseparated : ¬ keySeparator <:+: typeName.space.toList

variable {left right : TypeName}

namespace IsResplit

theorem text_eq (resplit : left.IsResplit right) : left.text = right.text := by
  cases resplit with
  | segment outer inner name => simp only [text, String.append_assoc]
  | colon space name =>
      rw [text_eq_encodeKey, text_eq_encodeKey]
      exact (encodeKey_append_colon space name).symm

theorem length_space_lt (resplit : left.IsResplit right) :
    left.space.length < right.space.length := by
  cases resplit with
  | segment outer inner name =>
      rw [String.length_append, String.length_append, Nat.add_assoc]
      exact Nat.lt_add_of_pos_right (Nat.lt_add_right _ (Nat.succ_pos 1))
  | colon space name =>
      rw [String.length_append]
      exact Nat.lt_succ_self _

theorem irrefl (name : TypeName) : ¬ name.IsResplit name :=
  fun resplit => Nat.lt_irrefl _ resplit.length_space_lt

theorem not_hasPlainSpace (resplit : left.IsResplit right) : ¬ right.HasPlainSpace := by
  rintro ⟨noColon, unseparated⟩
  cases resplit with
  | segment outer inner name =>
      apply unseparated
      rw [String.toList_append, String.toList_append]
      exact List.infix_append _ _ _
  | colon space name =>
      apply noColon
      rw [EndsInColon, String.toList_append]
      exact List.suffix_append _ _

end IsResplit

/-- What the longer namespace has beyond the other one begins with the separator of the other name. -/
theorem eq_or_isResplit_of_append {gap : List Char}
    (spaces : right.space.toList = left.space.toList ++ gap)
    (rest : keySeparator ++ left.name.toList = gap ++ (keySeparator ++ right.name.toList)) :
    left = right ∨ left.IsResplit right := by
  obtain ⟨space, name⟩ := left
  obtain ⟨other, otherName⟩ := right
  -- Nothing is left over, or one colon that both separators share, or a whole separator and more.
  rcases gap with _ | ⟨first, _ | ⟨second, inner⟩⟩
  · have sameSpace : other = space := by
      rwa [List.append_nil, String.toList_inj] at spaces
    have sameName : name = otherName := by
      rwa [List.nil_append, List.append_cancel_left_eq, String.toList_inj] at rest
    exact .inl (by rw [sameSpace, sameName])
  · simp only [keySeparator, List.cons_append, List.nil_append, List.cons.injEq, true_and] at rest
    obtain ⟨rfl, kept⟩ := rest
    have moved : other = space ++ ":" := by
      rw [← String.toList_inj, String.toList_append]
      exact spaces
    have whole : name = ":" ++ otherName := by
      rw [← String.toList_inj, String.toList_append]
      exact kept
    rw [moved, whole]
    exact .inr (.colon space otherName)
  · simp only [keySeparator, List.cons_append, List.nil_append, List.cons.injEq] at rest
    obtain ⟨rfl, rfl, kept⟩ := rest
    have longer : other = space ++ "::" ++ String.ofList inner := by
      simp only [← String.toList_inj, String.toList_append, String.toList_ofList, List.append_assoc]
      exact spaces
    have whole : name = String.ofList inner ++ "::" ++ otherName := by
      simp only [← String.toList_inj, String.toList_append, String.toList_ofList, List.append_assoc]
      exact kept
    rw [longer, whole]
    exact .inr (.segment space (String.ofList inner) otherName)

/-- Two names are written alike exactly when they are the same or split the text differently. -/
theorem text_eq_text_iff :
    left.text = right.text ↔ left = right ∨ left.IsResplit right ∨ right.IsResplit left := by
  constructor
  · intro same
    rw [text_eq_encodeKey, text_eq_encodeKey, eq_encodeKey_iff, encodeKey, String.toList_ofList,
      encodeChars, encodeChars, List.append_assoc, List.append_assoc,
      List.append_eq_append_iff] at same
    rcases same with ⟨gap, spaces, rest⟩ | ⟨gap, spaces, rest⟩
    · rcases eq_or_isResplit_of_append spaces rest with same | resplit
      · exact .inl same
      · exact .inr (.inl resplit)
    · rcases eq_or_isResplit_of_append spaces rest with same | resplit
      · exact .inl same.symm
      · exact .inr (.inr resplit)
  · rintro (rfl | resplit | resplit)
    · rfl
    · exact resplit.text_eq
    · exact resplit.text_eq.symm

end TypeName

namespace TypeRegistry

variable {registry : TypeRegistry}

theorem IsBuilt.nodup_typeNames (built : registry.IsBuilt) :
    (registry.definitions.map fun definition => definition.type.typeName).Nodup := by
  induction built with
  | empty => exact List.nodup_nil
  | @register registry next added built accepted distinct =>
      obtain ⟨new, rfl⟩ := register_eq_ok_iff.mp accepted
      rw [TypeRegistry.add, List.map_append, List.nodup_append]
      refine ⟨distinct, List.nodup_singleton _, ?_⟩
      intro name early other here sameName
      rw [sameName, List.mem_singleton.mp here] at early
      exact built.position?_eq_none_iff.mp new early

/-- The qualified names are distinct exactly when no registered type splits another one's text. -/
theorem IsBuilt.hasDistinctNames_iff (built : registry.IsBuilt) :
    registry.HasDistinctNames ↔ ∀ left ∈ registry.definitions, ∀ right ∈ registry.definitions,
      ¬ left.type.typeName.IsResplit right.type.typeName := by
  constructor
  · intro distinct left leftListed right rightListed resplit
    obtain rfl := distinct.eq_of_qualifiedName_eq leftListed rightListed resplit.text_eq
    exact TypeName.IsResplit.irrefl _ resplit
  · intro unsplit
    have named := built.nodup_typeNames
    refine named.of_map _ |>.map_on ?_
    intro left leftListed right rightListed sameText
    rcases TypeName.text_eq_text_iff.mp sameText with sameName | resplit | resplit
    · exact List.inj_on_of_nodup_map named leftListed rightListed sameName
    · exact absurd resplit (unsplit left leftListed right rightListed)
    · exact absurd resplit (unsplit right rightListed left leftListed)

/-- A registration is refused because its name is registered, and the refusal gives that name. -/
def Refuses (registry : TypeRegistry) (definition : TypeDefinition) : Prop :=
  registry.register definition =
    .error (.invalidElement definition.type.qualifiedName "type registered twice")

theorem IsBuilt.refuses_iff (built : registry.IsBuilt) {definition : TypeDefinition} :
    registry.Refuses definition ↔
      ∃ registered ∈ registry.definitions,
        registered.type.typeName = definition.type.typeName := by
  rw [Refuses, register_eq_error_iff, ne_eq, built.position?_eq_none_iff, not_not, List.mem_map]
  exact and_iff_left rfl

/-- A registered type that is written like a new one has its name, or the two split the text apart. -/
theorem IsBuilt.refuses_iff_written_alike (built : registry.IsBuilt)
    {definition : TypeDefinition} :
    registry.Refuses definition ↔
      ∃ registered ∈ registry.definitions,
        registered.type.qualifiedName = definition.type.qualifiedName ∧
          ¬ registered.type.typeName.IsResplit definition.type.typeName ∧
          ¬ definition.type.typeName.IsResplit registered.type.typeName := by
  rw [built.refuses_iff]
  constructor
  · rintro ⟨registered, listed, same⟩
    refine ⟨registered, listed, congrArg TypeName.text same, ?_, ?_⟩
    · rw [same]
      exact TypeName.IsResplit.irrefl _
    · rw [same]
      exact TypeName.IsResplit.irrefl _
  · rintro ⟨registered, listed, sameText, notBefore, notBehind⟩
    rcases TypeName.text_eq_text_iff.mp sameText with same | resplit | resplit
    · exact ⟨registered, listed, same⟩
    · exact absurd resplit notBefore
    · exact absurd resplit notBehind

/--
After any registrations no two types have the same namespace and simple name, and two
have the same qualified name exactly when one splits the text of the other one apart.
A registration under the qualified name of a registered type is refused unless it
splits that text differently.  So with plain namespaces the qualified names are
distinct, and every registration under one that is registered is refused.
-/
theorem names_shared_iff_resplit (calls : List TypeDefinition) :
    let registry := empty.afterCalls calls
    (registry.definitions.map fun definition => definition.type.typeName).Nodup ∧
      (registry.HasDistinctNames ↔
        ∀ left ∈ registry.definitions, ∀ right ∈ registry.definitions,
          ¬ left.type.typeName.IsResplit right.type.typeName) ∧
      (∀ definition, registry.Refuses definition ↔
        ∃ registered ∈ registry.definitions,
          registered.type.qualifiedName = definition.type.qualifiedName ∧
            ¬ registered.type.typeName.IsResplit definition.type.typeName ∧
            ¬ definition.type.typeName.IsResplit registered.type.typeName) ∧
      ((∀ registered ∈ registry.definitions, registered.type.typeName.HasPlainSpace) →
        registry.HasDistinctNames ∧
          ∀ definition, definition.type.typeName.HasPlainSpace →
            (registry.Refuses definition ↔
              ∃ registered ∈ registry.definitions,
                registered.type.qualifiedName = definition.type.qualifiedName)) := by
  intro registry
  have built : registry.IsBuilt := IsBuilt.empty.afterCalls calls
  refine ⟨built.nodup_typeNames, built.hasDistinctNames_iff, ?_, ?_⟩
  · exact fun definition => built.refuses_iff_written_alike
  · intro plain
    constructor
    · apply built.hasDistinctNames_iff.mpr
      intro left _ right rightListed resplit
      exact resplit.not_hasPlainSpace (plain right rightListed)
    · intro definition plainToo
      rw [built.refuses_iff_written_alike]
      constructor
      · rintro ⟨registered, listed, sameText, _⟩
        exact ⟨registered, listed, sameText⟩
      · rintro ⟨registered, listed, sameText⟩
        exact ⟨registered, listed, sameText, fun resplit => resplit.not_hasPlainSpace plainToo,
          fun resplit => resplit.not_hasPlainSpace (plain registered listed)⟩

/-- A double colon in a simple name does no harm as long as the namespaces are plain. -/
theorem names_distinct_of_plain_zoo :
    let cat : TypeDefinition := { type := { typeName := ⟨"zoo", "pets::Cat"⟩ } }
    let wildCat : TypeDefinition := { type := { typeName := ⟨"zoo", "Cat"⟩ } }
    let interface : TypeDefinition :=
      { type := { typeName := ⟨"zoo", "pets::Cat"⟩, isInterface := true } }
    let registry := empty.afterCalls [cat, wildCat]
    (∀ registered ∈ registry.definitions, registered.type.typeName.HasPlainSpace) ∧
      interface.type.typeName.HasPlainSpace ∧ registry.HasDistinctNames ∧
      cat.type.qualifiedName = "zoo::pets::Cat" ∧ registry.Refuses interface := by
  intro cat wildCat interface registry
  have noColon : ¬ EndsInColon "zoo" := by decide
  have unseparated : ¬ keySeparator <:+: "zoo".toList := by decide
  have zoo : ∀ name, TypeName.HasPlainSpace ⟨"zoo", name⟩ := fun _ => ⟨noColon, unseparated⟩
  have listed : registry.definitions = [cat, wildCat] := by decide
  have plain : ∀ registered ∈ registry.definitions, registered.type.typeName.HasPlainSpace := by
    rw [listed]
    intro registered member
    rcases List.mem_pair.mp member with rfl | rfl
    · exact zoo _
    · exact zoo _
  obtain ⟨_, _, _, whenPlain⟩ := names_shared_iff_resplit [cat, wildCat]
  obtain ⟨distinct, refuses⟩ := whenPlain plain
  refine ⟨plain, zoo _, distinct, by decide, ?_⟩
  apply (refuses interface (zoo _)).mpr
  exact ⟨cat, listed ▸ List.mem_cons_self, rfl⟩

/-- A cat among the pets of the zoo and a pet cat of the zoo are registered under one text. -/
theorem names_shared_by_pets :
    let cat : TypeDefinition := { type := { typeName := ⟨"zoo::pets", "Cat"⟩ } }
    let petCat : TypeDefinition := { type := { typeName := ⟨"zoo", "pets::Cat"⟩ } }
    let registry := empty.afterCalls [cat]
    (∃ registered ∈ registry.definitions,
        registered.type.qualifiedName = petCat.type.qualifiedName) ∧
      registry.register petCat = .ok (registry.add petCat) ∧ ¬ registry.Refuses petCat ∧
      ¬ (empty.afterCalls [cat, petCat]).HasDistinctNames := by
  intro cat petCat registry
  have accepted : registry.register petCat = .ok (registry.add petCat) :=
    register_of_new (by decide)
  refine ⟨⟨cat, by decide, by decide⟩, accepted, ?_, ?_⟩
  · intro refused
    cases accepted.symm.trans refused
  · rw [HasDistinctNames]
    decide

end TypeRegistry

end FormWidgets
