import FormWidgets.Proofs.TypeSystem.Registration
import Mathlib

/-!
# Sequences of registrations

Types are registered one after the other, and a registration that is refused does
not keep the later ones from being made.  Each registration either appends one
definition and one entry of the index, or it changes nothing; so the index stays in
step with the definitions, and what is found under a name is what was registered
first under it.
-/

namespace FormWidgets.TypeRegistry

variable {registry : TypeRegistry} {definition : TypeDefinition}

/-- The registry after a registration: a refused one leaves it as it is. -/
def afterCall (registry : TypeRegistry) (definition : TypeDefinition) : TypeRegistry :=
  match registry.register definition with
  | .ok next => next
  | .error _ => registry

/-- The registry after a sequence of registrations, whichever of them are refused. -/
def afterCalls (registry : TypeRegistry) (calls : List TypeDefinition) : TypeRegistry :=
  calls.foldl afterCall registry

theorem afterCalls_cons (calls : List TypeDefinition) :
    registry.afterCalls (definition :: calls) = (registry.afterCall definition).afterCalls calls :=
  rfl

theorem afterCalls_append (calls more : List TypeDefinition) :
    registry.afterCalls (calls ++ more) = (registry.afterCalls calls).afterCalls more :=
  List.foldl_append

/-- How the registrations of a sequence are answered, each after those before it. -/
def answers (registry : TypeRegistry) : List TypeDefinition → List (Except EngineError TypeRegistry)
  | [] => []
  | definition :: rest =>
      registry.register definition :: answers (registry.afterCall definition) rest

/-- The index holds the position of every definition under its name, and nothing else. -/
structure IsIndexed (registry : TypeRegistry) : Prop where
  position_iff : ∀ typeName position, registry.position? typeName = some position ↔
    ∃ definition, registry.definitions[position]? = some definition ∧
      definition.type.typeName = typeName
  indexed : ∀ definition ∈ registry.definitions, ∃ position,
    registry.position? definition.type.typeName = some position ∧
      registry.definitions[position]? = some definition
  inRange : ∀ typeName position, registry.position? typeName = some position →
    position < registry.size

/-! ## One registration -/

/-- A registration is refused when the name is taken, and for no other reason. -/
theorem register_eq_error_iff {error : EngineError} :
    registry.register definition = .error error ↔
      registry.position? definition.type.typeName ≠ none ∧
        error = .invalidElement definition.type.qualifiedName "type registered twice" := by
  rw [register]
  cases registry.position? definition.type.typeName with
  | some position => simp [eq_comm]
  | none => simp

theorem register_of_new (new : registry.position? definition.type.typeName = none) :
    registry.register definition = .ok (registry.add definition) :=
  register_eq_ok_iff.mpr ⟨new, rfl⟩

theorem register_of_taken (taken : registry.position? definition.type.typeName ≠ none) :
    registry.register definition =
      .error (.invalidElement definition.type.qualifiedName "type registered twice") :=
  register_eq_error_iff.mpr ⟨taken, rfl⟩

theorem afterCall_of_new (new : registry.position? definition.type.typeName = none) :
    registry.afterCall definition = registry.add definition := by
  rw [afterCall, register_of_new new]

theorem afterCall_of_taken (taken : registry.position? definition.type.typeName ≠ none) :
    registry.afterCall definition = registry := by
  rw [afterCall, register_of_taken taken]

namespace IsBuilt

theorem afterCall (built : registry.IsBuilt) (definition : TypeDefinition) :
    (registry.afterCall definition).IsBuilt := by
  by_cases new : registry.position? definition.type.typeName = none
  · rw [afterCall_of_new new]
    exact built.register (register_of_new new)
  · rwa [afterCall_of_taken new]

theorem isIndexed (built : registry.IsBuilt) : registry.IsIndexed where
  position_iff _ _ := built.position?_eq_some_iff
  indexed definition listed := by
    obtain ⟨position, standsAt⟩ := List.mem_iff_getElem?.mp listed
    exact ⟨position, built.position?_eq_some_iff.mpr ⟨definition, standsAt, rfl⟩, standsAt⟩
  inRange typeName position found := by
    obtain ⟨definition, standsAt, _⟩ := built.position?_eq_some_iff.mp found
    exact (List.getElem?_eq_some_iff.mp standsAt).1

theorem definition?_eq_find? (built : registry.IsBuilt) (typeName : TypeName) :
    registry.definition? typeName =
      registry.definitions.find? fun definition => definition.type.typeName = typeName := by
  cases first : registry.definitions.find? fun definition =>
      definition.type.typeName = typeName with
  | some definition =>
      apply built.definition?_eq_some_iff.mpr
      exact ⟨List.mem_of_find?_eq_some first, by simpa using List.find?_some first⟩
  | none =>
      rw [Option.eq_none_iff_forall_ne_some]
      intro definition found
      obtain ⟨listed, named⟩ := built.definition?_eq_some_iff.mp found
      exact List.find?_eq_none.mp first definition listed (decide_eq_true named)

/-- A registration under a taken name does not come into what is found. -/
theorem find?_afterCall_append (built : registry.IsBuilt) (rest : List TypeDefinition)
    (typeName : TypeName) :
    ((registry.afterCall definition).definitions ++ rest).find?
        (fun listed => listed.type.typeName = typeName) =
      (registry.definitions ++ definition :: rest).find?
        fun listed => listed.type.typeName = typeName := by
  by_cases new : registry.position? definition.type.typeName = none
  · rw [afterCall_of_new new, List.append_cons]
    rfl
  · rw [afterCall_of_taken new, List.find?_append, List.find?_append, List.find?_cons]
    have taken := not_not.mp (mt built.position?_eq_none_iff.mpr new)
    obtain ⟨earlier, listed, named⟩ := List.mem_map.mp taken
    split
    · rename_i same
      have found : (registry.definitions.find? fun listed =>
          listed.type.typeName = typeName).isSome := by
        rw [List.find?_isSome]
        exact ⟨earlier, listed, decide_eq_true (named.trans (of_decide_eq_true same))⟩
      rw [Option.or_of_isSome found, Option.or_of_isSome found]
    · rfl

/-! ## All registrations -/

theorem afterCalls (built : registry.IsBuilt) (calls : List TypeDefinition) :
    (registry.afterCalls calls).IsBuilt := by
  induction calls generalizing registry with
  | nil => exact built
  | cons definition rest later => exact later (built.afterCall definition)

/-- What is found is what was there before, or else what was registered first. -/
theorem definition?_afterCalls (built : registry.IsBuilt) (calls : List TypeDefinition)
    (typeName : TypeName) :
    (registry.afterCalls calls).definition? typeName =
      (registry.definitions ++ calls).find? fun listed => listed.type.typeName = typeName := by
  induction calls generalizing registry with
  | nil => rw [List.append_nil, TypeRegistry.afterCalls, List.foldl_nil, built.definition?_eq_find?]
  | cons definition rest later =>
      rw [← built.find?_afterCall_append]
      exact later (built.afterCall definition)

end IsBuilt

theorem size_afterCall :
    (registry.afterCall definition).size =
      registry.size + if (registry.register definition).isOk then 1 else 0 := by
  by_cases new : registry.position? definition.type.typeName = none
  · rw [afterCall_of_new new, register_of_new new]
    exact List.length_append
  · rw [afterCall_of_taken new, register_of_taken new]
    rfl

theorem size_afterCalls (calls : List TypeDefinition) :
    (registry.afterCalls calls).size = registry.size + (registry.answers calls).countP Except.isOk := by
  induction calls generalizing registry with
  | nil => rfl
  | cons definition rest later =>
      rw [answers, List.countP_cons, Nat.add_comm (List.countP _ _), ← Nat.add_assoc,
        ← size_afterCall, ← later, afterCalls_cons]

/-- Leaving out a registration under a name that is taken by then makes no difference. -/
theorem afterCalls_append_cons_of_taken {calls : List TypeDefinition}
    (taken : (registry.afterCalls calls).position? definition.type.typeName ≠ none)
    (later : List TypeDefinition) :
    registry.afterCalls (calls ++ definition :: later) = registry.afterCalls (calls ++ later) := by
  rw [afterCalls_append, afterCalls_append, afterCalls_cons, afterCall_of_taken taken]

/--
After any registrations, refused ones among them, the index maps a name to the
position of the definition of that name.  A name stands for the first type that was
registered under it, and there are as many types as accepted registrations.  A later
registration under the same name is refused, and the registry is the one without it.
-/
theorem afterCalls_keeps_index (calls : List TypeDefinition) :
    let registry := empty.afterCalls calls
    registry.IsIndexed ∧
      (∀ typeName, registry.find? typeName =
        (calls.find? fun call => call.type.typeName = typeName).map TypeDefinition.type) ∧
      registry.size = (empty.answers calls).countP Except.isOk ∧
      ∀ first ∈ calls, ∀ duplicate, duplicate.type.typeName = first.type.typeName →
        registry.register duplicate =
            .error (.invalidElement duplicate.type.qualifiedName "type registered twice") ∧
          ∀ later, empty.afterCalls (calls ++ duplicate :: later) =
            empty.afterCalls (calls ++ later) := by
  intro registry
  have built : registry.IsBuilt := IsBuilt.empty.afterCalls calls
  have found : ∀ typeName, registry.definition? typeName =
      calls.find? fun call => call.type.typeName = typeName :=
    IsBuilt.empty.definition?_afterCalls calls
  refine ⟨built.isIndexed, ?_, ?_, ?_⟩
  · intro typeName
    rw [find?, found]
  · exact (size_afterCalls calls).trans (Nat.zero_add _)
  · intro first called duplicate sameName
    have taken : registry.position? duplicate.type.typeName ≠ none := by
      intro new
      have unfound := found duplicate.type.typeName
      rw [definition?, new] at unfound
      exact List.find?_eq_none.mp unfound.symm first called (decide_eq_true sameName.symm)
    exact ⟨register_of_taken taken, afterCalls_append_cons_of_taken taken⟩

/-- The second cat is refused wherever it comes, and the first one keeps its name. -/
theorem afterCalls_keeps_first_cat :
    let cat : TypeDefinition :=
      { type := { typeName := ⟨"zoo", "Cat"⟩ }, supertypes := ["zoo::Animal"] }
    let animal : TypeDefinition := { type := { typeName := ⟨"zoo", "Animal"⟩, isAbstract := true } }
    let secondCat : TypeDefinition := { type := { typeName := ⟨"zoo", "Cat"⟩, isInterface := true } }
    let registry := empty.afterCalls [cat, secondCat, animal]
    cat ∈ [cat, secondCat, animal] ∧ secondCat.type.typeName = cat.type.typeName ∧
      registry.find? ⟨"zoo", "Cat"⟩ = some cat.type ∧ registry.find? ⟨"zoo", "Dog"⟩ = none ∧
      registry.size = 2 ∧
      registry.register secondCat =
        .error (.invalidElement "zoo::Cat" "type registered twice") ∧
      empty.afterCalls [cat, secondCat, animal, secondCat] = registry := by
  intro cat animal secondCat registry
  obtain ⟨_, finds, counts, refuses⟩ := afterCalls_keeps_index [cat, secondCat, animal]
  have called : cat ∈ [cat, secondCat, animal] := List.mem_cons_self
  obtain ⟨refused, same⟩ := refuses cat called secondCat rfl
  refine ⟨called, rfl, finds _, finds _, ?_, refused, same []⟩
  rw [counts]
  decide

end FormWidgets.TypeRegistry
