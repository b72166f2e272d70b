import FormWidgets.TypeSystem.Registry

/-!
# Registered types

Registration keeps the list of definitions and the index of names in step: a
name is found exactly when a definition of that name is listed, and there is at
most one.
-/

namespace FormWidgets.TypeRegistry

/-- The registries that registrations lead to; a refused registration leaves a registry as it is. -/
inductive IsBuilt : TypeRegistry → Prop where
  | empty : IsBuilt empty
  | register {registry next : TypeRegistry} {definition : TypeDefinition}
      (built : IsBuilt registry) (accepted : registry.register definition = .ok next) :
      IsBuilt next

/-- A registration is accepted when the name is new, and then adds the definition. -/
theorem register_eq_ok_iff {registry next : TypeRegistry} {definition : TypeDefinition} :
    registry.register definition = .ok next ↔
      registry.position? definition.type.typeName = none ∧ next = registry.add definition := by
  rw [register]
  cases registry.position? definition.type.typeName with
  | some position => simp
  | none => simp [eq_comm]

theorem position?_add (registry : TypeRegistry) (added : TypeDefinition)
    (typeName : TypeName) :
    (registry.add added).position? typeName =
      if typeName = added.type.typeName then some registry.size
      else registry.position? typeName := by
  simp only [position?, add, NameMap.find?_put]
  by_cases sameSpace : typeName.space = added.type.typeName.space
  · by_cases sameName : typeName.name = added.type.typeName.name
    · have same : typeName = added.type.typeName := congr (congrArg TypeName.mk sameSpace) sameName
      simp [same]
    · have different : typeName ≠ added.type.typeName :=
        fun same => sameName (congrArg TypeName.name same)
      rw [if_pos sameSpace, if_neg different, Option.bind_some,
        NameMap.find?_put_of_ne _ _ sameName, sameSpace]
      cases registry.positions.find? added.type.typeName.space with
      | none => rfl
      | some names => rfl
  · have different : typeName ≠ added.type.typeName :=
      fun same => sameSpace (congrArg TypeName.space same)
    rw [if_neg sameSpace, if_neg different]

theorem getElem?_definitions_add {registry : TypeRegistry} {added definition : TypeDefinition}
    {position : Nat} :
    (registry.add added).definitions[position]? = some definition ↔
      registry.definitions[position]? = some definition ∨
        (position = registry.size ∧ definition = added) := by
  simp only [add, size, List.getElem?_append]
  split
  · rename_i early
    have notLast : position ≠ registry.definitions.length := Nat.ne_of_lt early
    simp [notLast]
  · rename_i late
    have unlisted : registry.definitions[position]? = none :=
      List.getElem?_eq_none (Nat.le_of_not_lt late)
    simp only [unlisted, List.getElem?_singleton]
    grind

namespace IsBuilt

variable {registry : TypeRegistry}

/-- The index maps a name to a position exactly when a definition of that name stands there. -/
theorem position?_eq_some_iff (built : registry.IsBuilt) {typeName : TypeName}
    {position : Nat} :
    registry.position? typeName = some position ↔
      ∃ definition, registry.definitions[position]? = some definition ∧
        definition.type.typeName = typeName := by
  induction built generalizing typeName position with
  | empty => simp [TypeRegistry.empty, position?]
  | @register registry next added _ accepted indexed =>
      obtain ⟨unused, rfl⟩ := register_eq_ok_iff.mp accepted
      simp only [position?_add, getElem?_definitions_add]
      split
      · rename_i isAdded
        constructor
        · intro found
          exact ⟨added, .inr ⟨(Option.some.inj found).symm, rfl⟩, isAdded.symm⟩
        · rintro ⟨definition, listed | ⟨rfl, rfl⟩, named⟩
          · have found := indexed.mpr ⟨definition, listed, named.trans isAdded⟩
            rw [unused] at found
            cases found
          · rfl
      · rename_i notAdded
        rw [indexed]
        constructor
        · rintro ⟨definition, listed, named⟩
          exact ⟨definition, .inl listed, named⟩
        · rintro ⟨definition, listed | ⟨rfl, rfl⟩, named⟩
          · exact ⟨definition, listed, named⟩
          · exact absurd named.symm notAdded

/-- A name is free exactly when no definition of that name is listed. -/
theorem position?_eq_none_iff (built : registry.IsBuilt) {typeName : TypeName} :
    registry.position? typeName = none ↔
      typeName ∉ registry.definitions.map fun definition => definition.type.typeName := by
  rw [Option.eq_none_iff_forall_ne_some]
  constructor
  · intro free taken
    obtain ⟨definition, listed, named⟩ := List.mem_map.mp taken
    obtain ⟨position, standsAt⟩ := List.mem_iff_getElem?.mp listed
    exact free position (built.position?_eq_some_iff.mpr ⟨definition, standsAt, named⟩)
  · intro free position found
    obtain ⟨definition, standsAt, named⟩ := built.position?_eq_some_iff.mp found
    exact free (List.mem_map.mpr ⟨definition, List.mem_of_getElem? standsAt, named⟩)

/-- A name is found exactly when a definition of that name is listed. -/
theorem definition?_eq_some_iff (built : registry.IsBuilt) {typeName : TypeName}
    {definition : TypeDefinition} :
    registry.definition? typeName = some definition ↔
      definition ∈ registry.definitions ∧ definition.type.typeName = typeName := by
  rw [definition?, Option.bind_eq_some_iff]
  constructor
  · rintro ⟨position, found, listed⟩
    obtain ⟨other, otherListed, named⟩ := built.position?_eq_some_iff.mp found
    obtain rfl := Option.some.inj (otherListed.symm.trans listed)
    exact ⟨List.mem_of_getElem? listed, named⟩
  · rintro ⟨member, named⟩
    obtain ⟨position, listed⟩ := List.mem_iff_getElem?.mp member
    exact ⟨position, built.position?_eq_some_iff.mpr ⟨definition, listed, named⟩, listed⟩

/-- A text resolves to a type exactly when it reads as the name under which the type is found. -/
theorem resolve_eq_ok_iff (built : registry.IsBuilt) {text : String} {type : DomainType} :
    registry.resolve text = .ok type ↔
      TypeName.parse? text = some type.typeName ∧ registry.find? type.typeName = some type := by
  have named : ∀ typeName, registry.find? typeName = some type → type.typeName = typeName := by
    intro typeName found
    obtain ⟨definition, listed, rfl⟩ := Option.map_eq_some_iff.mp found
    exact (built.definition?_eq_some_iff.mp listed).2
  have resolved : registry.resolve text = .ok type ↔
      (TypeName.parse? text).bind registry.find? = some type := by
    rw [resolve]
    cases (TypeName.parse? text).bind registry.find? with
    | none => simp
    | some found => simp
  rw [resolved, Option.bind_eq_some_iff]
  constructor
  · rintro ⟨typeName, read, found⟩
    obtain rfl := named typeName found
    exact ⟨read, found⟩
  · rintro ⟨read, found⟩
    exact ⟨_, read, found⟩

end IsBuilt

end FormWidgets.TypeRegistry
