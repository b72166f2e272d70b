import FormWidgets.Proofs.TypeSystem.Registration
import FormWidgets.TypeSystem.Lineage
import Mathlib

/-!
# Ancestry

Declared supertypes make the registered definitions a graph, with circles,
diamonds and edges that lead nowhere.  The ancestry of a type is what its
definition reaches in that graph.  Lineages, assignability and subtypes are read
against it here.

The walk behind a lineage is followed one pending definition at a time.  Every
step uses up one of finitely many declared supertypes, and keeps that all edges
of what was visited lead to something visited or pending; so the walk ends, and
ends with the whole ancestry.  Two definitions of one qualified name would hide
each other from the walk, so these names are taken to be distinct.
-/

namespace FormWidgets

namespace TypeRegistry

variable (registry : TypeRegistry)

/-- A definition declares a supertype whose name can be read and is registered for another one. -/
def HasSupertype (lower upper : TypeDefinition) : Prop :=
  ∃ text ∈ lower.supertypes, ∃ typeName,
    TypeName.parse? text = some typeName ∧ registry.definition? typeName = some upper

/-- A definition is another one or reaches it along declared supertypes. -/
def Reaches (lower upper : TypeDefinition) : Prop :=
  Relation.ReflTransGen registry.HasSupertype lower upper

/-- A definition is reached from the one that is registered under the name of a type. -/
def IsAncestor (type : DomainType) (upper : TypeDefinition) : Prop :=
  ∃ lower, registry.definition? type.typeName = some lower ∧ registry.Reaches lower upper

/-- No two registered types are written with the same qualified name. -/
def HasDistinctNames : Prop :=
  (registry.definitions.map fun definition => definition.type.qualifiedName).Nodup

theorem mem_supertypesOf {lower upper : TypeDefinition} :
    upper ∈ registry.supertypesOf lower ↔ registry.HasSupertype lower upper := by
  simp only [supertypesOf, named?, List.mem_filterMap, Option.bind_eq_some_iff, HasSupertype]

variable {registry}

theorem HasSupertype.registered (built : registry.IsBuilt) {lower upper : TypeDefinition}
    (direct : registry.HasSupertype lower upper) : upper ∈ registry.definitions := by
  obtain ⟨text, declared, typeName, parsed, found⟩ := direct
  exact (built.definition?_eq_some_iff.mp found).1

theorem IsAncestor.registered (built : registry.IsBuilt) {type : DomainType}
    {upper : TypeDefinition} (ancestor : registry.IsAncestor type upper) :
    upper ∈ registry.definitions := by
  obtain ⟨lower, found, reaches⟩ := ancestor
  rcases reaches.cases_tail with rfl | ⟨middle, _, direct⟩
  · exact (built.definition?_eq_some_iff.mp found).1
  · exact direct.registered built

theorem IsAncestor.tail {type : DomainType} {middle upper : TypeDefinition}
    (ancestor : registry.IsAncestor type middle)
    (direct : registry.HasSupertype middle upper) : registry.IsAncestor type upper := by
  obtain ⟨lower, found, reaches⟩ := ancestor
  exact ⟨lower, found, reaches.tail direct⟩

/-- Definitions with distinct qualified names are told apart by them. -/
theorem HasDistinctNames.eq_of_qualifiedName_eq (distinct : registry.HasDistinctNames)
    {left right : TypeDefinition} (leftListed : left ∈ registry.definitions)
    (rightListed : right ∈ registry.definitions)
    (sameName : left.type.qualifiedName = right.type.qualifiedName) : left = right :=
  List.inj_on_of_nodup_map distinct leftListed rightListed sameName

theorem walk_cons_of_unvisited {unvisited rest : List TypeDefinition}
    {definition : TypeDefinition}
    (fresh : unvisited.any (isNamed definition.type.qualifiedName) = true) :
    registry.walk unvisited (definition :: rest) =
      definition ::
        registry.walk (dropNamed definition.type.qualifiedName unvisited)
          (registry.supertypesOf definition ++ rest) := by
  rw [walk, dif_pos fresh]

theorem walk_cons_of_visited {unvisited rest : List TypeDefinition}
    {definition : TypeDefinition}
    (dropped : ¬ unvisited.any (isNamed definition.type.qualifiedName) = true) :
    registry.walk unvisited (definition :: rest) = registry.walk unvisited rest := by
  rw [walk, dif_neg dropped]

/-- What is found under a name is registered. -/
theorem registered_of_definition? {typeName : TypeName} {definition : TypeDefinition}
    (found : registry.definition? typeName = some definition) :
    definition ∈ registry.definitions := by
  obtain ⟨position, _, listed⟩ := Option.bind_eq_some_iff.mp found
  exact List.mem_of_getElem? listed

theorem registered_of_mem_supertypesOf {lower upper : TypeDefinition}
    (direct : upper ∈ registry.supertypesOf lower) : upper ∈ registry.definitions := by
  obtain ⟨_, _, _, _, found⟩ := (mem_supertypesOf registry).mp direct
  exact registered_of_definition? found

/-- A walk from registered definitions visits registered ones only. -/
theorem registered_of_mem_walk {unvisited pending : List TypeDefinition}
    (registered : ∀ definition ∈ pending, definition ∈ registry.definitions)
    {definition : TypeDefinition} (visited : definition ∈ registry.walk unvisited pending) :
    definition ∈ registry.definitions := by
  induction unvisited, pending using walk.induct registry with
  | case1 unvisited =>
      rw [walk] at visited
      cases visited
  | case2 unvisited first rest fresh step =>
      rw [walk_cons_of_unvisited fresh] at visited
      rcases List.mem_cons.mp visited with rfl | visited
      · exact registered _ List.mem_cons_self
      · refine step (fun pending member => ?_) visited
        rcases List.mem_append.mp member with direct | later
        · exact registered_of_mem_supertypesOf direct
        · exact registered pending (List.mem_cons_of_mem _ later)
  | case3 unvisited first rest dropped step =>
      rw [walk_cons_of_visited dropped] at visited
      exact step (fun pending member => registered pending (List.mem_cons_of_mem _ member)) visited

theorem registered_of_mem_lineage {type : DomainType} {definition : TypeDefinition}
    (ancestor : definition ∈ registry.lineage type) : definition ∈ registry.definitions :=
  registered_of_mem_walk
    (fun _ pending => registered_of_definition? (Option.mem_toList.mp pending)) ancestor

end TypeRegistry

/-! ## Walks -/

/-- How far a walk has come: the definitions it visited, and those it has still to look at. -/
structure SupertypeWalk where
  visited : List TypeDefinition
  pending : List TypeDefinition

namespace SupertypeWalk

variable (registry : TypeRegistry)

/-- Whether a walk visited a definition of a given qualified name. -/
def hasVisited (walk : SupertypeWalk) (qualifiedName : String) : Bool :=
  walk.visited.any (TypeRegistry.isNamed qualifiedName)

/-- The walk that starts at the definition of a type, if there is one. -/
def start (type : DomainType) : SupertypeWalk :=
  ⟨[], (registry.definition? type.typeName).toList⟩

/--
Take the first pending definition.  One whose name was visited is dropped;
another one is visited, and its supertypes come before all that is pending.
-/
def step (walk : SupertypeWalk) : SupertypeWalk :=
  match walk.pending with
  | [] => walk
  | definition :: rest =>
      if walk.hasVisited definition.type.qualifiedName then ⟨walk.visited, rest⟩
      else ⟨walk.visited ++ [definition], registry.supertypesOf definition ++ rest⟩

/-- What a walk from a type keeps. -/
structure IsFrom (type : DomainType) (walk : SupertypeWalk) : Prop where
  reached : ∀ definition ∈ walk.visited ++ walk.pending, registry.IsAncestor type definition
  distinct : (walk.visited.map fun definition => definition.type.qualifiedName).Nodup
  origin : ∀ definition, registry.definition? type.typeName = some definition →
    definition ∈ walk.visited ++ walk.pending
  closed : ∀ lower ∈ walk.visited, ∀ upper, registry.HasSupertype lower upper →
    upper ∈ walk.visited ++ walk.pending

/-- The registered definitions whose names a walk has not visited, in order. -/
def unvisited (walk : SupertypeWalk) : List TypeDefinition :=
  registry.definitions.filter fun definition =>
    !walk.hasVisited definition.type.qualifiedName

/-- A bound on the steps that are left: what is pending and what may still become so. -/
def stepsLeft (walk : SupertypeWalk) : Nat :=
  walk.pending.length +
    ((walk.unvisited registry).map fun definition => (registry.supertypesOf definition).length).sum

variable {registry}

theorem hasVisited_iff {walk : SupertypeWalk} {qualifiedName : String} :
    walk.hasVisited qualifiedName = true ↔
      ∃ definition ∈ walk.visited, definition.type.qualifiedName = qualifiedName := by
  simp [hasVisited, TypeRegistry.isNamed]

theorem isFrom_start (type : DomainType) : IsFrom registry type (start registry type) := by
  constructor
  case reached =>
    intro definition member
    have found : registry.definition? type.typeName = some definition := by
      simpa [start] using member
    exact ⟨definition, found, .refl⟩
  case distinct => exact List.nodup_nil
  case origin =>
    intro definition found
    simp [start, found]
  case closed =>
    intro lower member
    cases member

/-- A definition that is dropped was visited itself, names being distinct. -/
theorem IsFrom.mem_visited_of_hasVisited (built : registry.IsBuilt)
    (distinct : registry.HasDistinctNames) {type : DomainType} {walk : SupertypeWalk}
    (isFrom : IsFrom registry type walk) {definition : TypeDefinition}
    (pending : definition ∈ walk.pending)
    (visited : walk.hasVisited definition.type.qualifiedName = true) :
    definition ∈ walk.visited := by
  obtain ⟨earlier, member, sameName⟩ := hasVisited_iff.mp visited
  have earlierListed := (isFrom.reached earlier (List.mem_append_left _ member)).registered built
  have listed := (isFrom.reached definition (List.mem_append_right _ pending)).registered built
  rwa [← distinct.eq_of_qualifiedName_eq earlierListed listed sameName]

theorem step_of_hasVisited {visited rest : List TypeDefinition} {definition : TypeDefinition}
    (dropped : hasVisited ⟨visited, definition :: rest⟩ definition.type.qualifiedName = true) :
    step registry ⟨visited, definition :: rest⟩ = ⟨visited, rest⟩ :=
  if_pos dropped

theorem step_of_not_hasVisited {visited rest : List TypeDefinition}
    {definition : TypeDefinition}
    (fresh : ¬ hasVisited ⟨visited, definition :: rest⟩ definition.type.qualifiedName = true) :
    step registry ⟨visited, definition :: rest⟩ =
      ⟨visited ++ [definition], registry.supertypesOf definition ++ rest⟩ :=
  if_neg fresh

theorem IsFrom.drop (built : registry.IsBuilt) (distinct : registry.HasDistinctNames)
    {type : DomainType} {visited rest : List TypeDefinition} {definition : TypeDefinition}
    (isFrom : IsFrom registry type ⟨visited, definition :: rest⟩)
    (dropped : hasVisited ⟨visited, definition :: rest⟩ definition.type.qualifiedName = true) :
    IsFrom registry type ⟨visited, rest⟩ := by
  have visitedBefore : definition ∈ visited :=
    isFrom.mem_visited_of_hasVisited built distinct List.mem_cons_self dropped
  have covers : ∀ {other}, other ∈ visited ++ definition :: rest → other ∈ visited ++ rest := by
    intro other member
    rcases List.mem_append.mp member with member | member
    · exact List.mem_append_left _ member
    · rcases List.mem_cons.mp member with rfl | member
      · exact List.mem_append_left _ visitedBefore
      · exact List.mem_append_right _ member
  constructor
  case reached =>
    intro other member
    have fewer := List.Sublist.append_left (List.sublist_cons_self definition rest) visited
    exact isFrom.reached other (fewer.subset member)
  case distinct => exact isFrom.distinct
  case origin => exact fun other found => covers (isFrom.origin other found)
  case closed =>
    exact fun lower member upper direct => covers (isFrom.closed lower member upper direct)

theorem IsFrom.visit {type : DomainType} {visited rest : List TypeDefinition}
    {definition : TypeDefinition}
    (isFrom : IsFrom registry type ⟨visited, definition :: rest⟩)
    (fresh : ¬ hasVisited ⟨visited, definition :: rest⟩ definition.type.qualifiedName = true) :
    IsFrom registry type
      ⟨visited ++ [definition], registry.supertypesOf definition ++ rest⟩ := by
  have reached : registry.IsAncestor type definition :=
    isFrom.reached definition (List.mem_append_right _ List.mem_cons_self)
  have covers : ∀ {other}, other ∈ visited ++ definition :: rest →
      other ∈ (visited ++ [definition]) ++ (registry.supertypesOf definition ++ rest) := by
    intro other member
    simp only [List.mem_append, List.mem_cons] at member ⊢
    tauto
  constructor
  case reached =>
    intro other member
    rcases List.mem_append.mp member with early | late
    · rcases List.mem_append.mp early with early | here
      · exact isFrom.reached other (List.mem_append_left _ early)
      · rwa [List.mem_singleton.mp here]
    · rcases List.mem_append.mp late with above | late
      · exact reached.tail (registry.mem_supertypesOf.mp above)
      · exact isFrom.reached other (List.mem_append_right _ (List.mem_cons_of_mem _ late))
  case distinct =>
    show ((visited ++ [definition]).map fun other => other.type.qualifiedName).Nodup
    rw [List.map_append, List.nodup_append]
    refine ⟨isFrom.distinct, List.nodup_singleton _, ?_⟩
    intro name early other here
    obtain ⟨earlier, member, rfl⟩ := List.mem_map.mp early
    obtain rfl := List.mem_singleton.mp here
    exact fun sameName => fresh (hasVisited_iff.mpr ⟨earlier, member, sameName⟩)
  case origin => exact fun other found => covers (isFrom.origin other found)
  case closed =>
    intro lower member upper direct
    rcases List.mem_append.mp member with early | here
    · exact covers (isFrom.closed lower early upper direct)
    · obtain rfl := List.mem_singleton.mp here
      exact List.mem_append_right _
        (List.mem_append_left _ (registry.mem_supertypesOf.mpr direct))

theorem IsFrom.step (built : registry.IsBuilt) (distinct : registry.HasDistinctNames)
    {type : DomainType} {walk : SupertypeWalk} (isFrom : IsFrom registry type walk) :
    IsFrom registry type (walk.step registry) := by
  obtain ⟨visited, _ | ⟨definition, rest⟩⟩ := walk
  · exact isFrom
  · by_cases met : hasVisited ⟨visited, definition :: rest⟩ definition.type.qualifiedName = true
    · rw [step_of_hasVisited met]
      exact isFrom.drop built distinct met
    · rw [step_of_not_hasVisited met]
      exact isFrom.visit met

theorem IsFrom.iterate_step (built : registry.IsBuilt) (distinct : registry.HasDistinctNames)
    {type : DomainType} {walk : SupertypeWalk} (isFrom : IsFrom registry type walk)
    (steps : Nat) : IsFrom registry type ((SupertypeWalk.step registry)^[steps] walk) := by
  induction steps generalizing walk with
  | zero => exact isFrom
  | succ steps later => exact later (isFrom.step built distinct)

/-- A walk that has nothing pending visited the whole ancestry of its type. -/
theorem IsFrom.mem_visited_iff {type : DomainType} {visited : List TypeDefinition}
    (isFrom : IsFrom registry type ⟨visited, []⟩) {definition : TypeDefinition} :
    definition ∈ visited ↔ registry.IsAncestor type definition := by
  constructor
  · intro member
    exact isFrom.reached definition (List.mem_append_left _ member)
  · rintro ⟨lower, found, reaches⟩
    induction reaches with
    | refl => simpa using isFrom.origin lower found
    | tail _ direct visitedBefore => simpa using isFrom.closed _ visitedBefore _ direct

/-! ## The end of a walk -/

/-- Visiting a definition removes its name from what is unvisited. -/
theorem unvisited_visit (visited pending rest : List TypeDefinition)
    (definition : TypeDefinition) :
    unvisited registry ⟨visited ++ [definition], pending⟩ =
      TypeRegistry.dropNamed definition.type.qualifiedName
        (unvisited registry ⟨visited, definition :: rest⟩) := by
  rw [TypeRegistry.dropNamed, unvisited, unvisited, List.filter_filter]
  refine List.filter_congr fun other _ => ?_
  simp [hasVisited, TypeRegistry.isNamed, Bool.or_comm, eq_comm]

theorem mem_unvisited {walk : SupertypeWalk} {definition : TypeDefinition}
    (registered : definition ∈ registry.definitions)
    (fresh : ¬ walk.hasVisited definition.type.qualifiedName = true) :
    definition ∈ walk.unvisited registry :=
  List.mem_filter.mpr ⟨registered, by simpa using fresh⟩

/-- A registered name is unvisited exactly when no visited definition has it. -/
theorem any_unvisited_iff (walk : SupertypeWalk) {definition : TypeDefinition}
    (registered : definition ∈ registry.definitions) :
    (walk.unvisited registry).any (TypeRegistry.isNamed definition.type.qualifiedName) = true ↔
      ¬ walk.hasVisited definition.type.qualifiedName = true := by
  constructor
  · intro unvisitedName
    obtain ⟨other, member, named⟩ := List.any_eq_true.mp unvisitedName
    have fresh := (List.mem_filter.mp member).2
    rw [of_decide_eq_true named] at fresh
    simpa using fresh
  · intro fresh
    exact List.any_eq_true.mpr
      ⟨definition, mem_unvisited registered fresh, decide_eq_true rfl⟩

/-- What a walk lists in the end: what it visited, and what the pending definitions still give. -/
def listing (registry : TypeRegistry) (walk : SupertypeWalk) : List TypeDefinition :=
  walk.visited ++ registry.walk (walk.unvisited registry) walk.pending

@[simp]
theorem listing_of_nothing_pending (visited : List TypeDefinition) :
    listing registry ⟨visited, []⟩ = visited := by
  simp [listing, TypeRegistry.walk]

theorem unvisited_start (type : DomainType) :
    unvisited registry (start registry type) = registry.definitions :=
  List.filter_eq_self.mpr fun _ _ => rfl

theorem listing_start (type : DomainType) :
    listing registry (start registry type) = registry.lineage type := by
  rw [listing, unvisited_start]
  rfl

/-- A step does not change what is listed in the end. -/
theorem listing_step {walk : SupertypeWalk}
    (registered : ∀ definition ∈ walk.pending, definition ∈ registry.definitions) :
    listing registry (walk.step registry) = listing registry walk := by
  obtain ⟨visited, _ | ⟨definition, rest⟩⟩ := walk
  · rfl
  · have unvisitedIff := any_unvisited_iff ⟨visited, definition :: rest⟩
      (registered definition List.mem_cons_self)
    by_cases met : hasVisited ⟨visited, definition :: rest⟩ definition.type.qualifiedName = true
    · have dropped := fun unvisitedName => unvisitedIff.mp unvisitedName met
      rw [step_of_hasVisited met, listing, listing, TypeRegistry.walk_cons_of_visited dropped]
      rfl
    · rw [step_of_not_hasVisited met, listing, listing, unvisited_visit _ _ rest,
        TypeRegistry.walk_cons_of_unvisited (unvisitedIff.mpr met), List.append_assoc]
      rfl

/-- A visited definition takes the supertypes that it makes pending out of those still to come. -/
theorem sum_dropNamed_add_le {definitions : List TypeDefinition} {definition : TypeDefinition}
    (member : definition ∈ definitions) (cost : TypeDefinition → Nat) :
    ((TypeRegistry.dropNamed definition.type.qualifiedName definitions).map cost).sum +
        cost definition ≤ (definitions.map cost).sum := by
  have named : definition ∈ definitions.filter
      (TypeRegistry.isNamed definition.type.qualifiedName) :=
    List.mem_filter.mpr ⟨member, decide_eq_true rfl⟩
  have counted := List.le_sum_of_mem (List.mem_map_of_mem (f := cost) named)
  have split := ((List.filter_append_perm
    (TypeRegistry.isNamed definition.type.qualifiedName) definitions).map cost).sum_eq
  rw [List.map_append, List.sum_append] at split
  rw [TypeRegistry.dropNamed]
  omega

/-- Every step uses up a part of the bound. -/
theorem stepsLeft_step_lt (visited rest : List TypeDefinition) {definition : TypeDefinition}
    (registered : definition ∈ registry.definitions) :
    stepsLeft registry (step registry ⟨visited, definition :: rest⟩) <
      stepsLeft registry ⟨visited, definition :: rest⟩ := by
  by_cases met : hasVisited ⟨visited, definition :: rest⟩ definition.type.qualifiedName = true
  · rw [step_of_hasVisited met]
    exact Nat.add_lt_add_right (Nat.lt_succ_self _) _
  · have used := sum_dropNamed_add_le (mem_unvisited registered met)
      fun other => (registry.supertypesOf other).length
    rw [step_of_not_hasVisited met, stepsLeft, stepsLeft, unvisited_visit _ _ rest,
      List.length_append, List.length_cons]
    omega

/-- A walk comes to its end within the bound on its steps. -/
theorem exists_iterate_step_eq (built : registry.IsBuilt) (distinct : registry.HasDistinctNames)
    {type : DomainType} {bound : Nat} {walk : SupertypeWalk} (isFrom : IsFrom registry type walk)
    (bounded : stepsLeft registry walk ≤ bound) :
    ∃ steps ≤ bound, (step registry)^[steps] walk = ⟨listing registry walk, []⟩ := by
  induction bound generalizing walk with
  | zero =>
      obtain ⟨visited, _ | ⟨definition, rest⟩⟩ := walk
      · exact ⟨0, Nat.le_refl _, by simp⟩
      · simp [stepsLeft] at bounded
  | succ bound later =>
      have registered : ∀ definition ∈ walk.pending, definition ∈ registry.definitions :=
        fun definition member =>
          (isFrom.reached definition (List.mem_append_right _ member)).registered built
      obtain ⟨visited, _ | ⟨definition, rest⟩⟩ := walk
      · exact ⟨0, Nat.zero_le _, by simp⟩
      · have shorter := stepsLeft_step_lt visited rest
          (registered definition List.mem_cons_self)
        obtain ⟨steps, few, ends⟩ := later (isFrom.step built distinct) (by omega)
        refine ⟨steps + 1, Nat.succ_le_succ few, ?_⟩
        rw [Function.iterate_succ_apply, ends, listing_step registered]

/-- From the start, one step for the type and one for each declared supertype are enough. -/
theorem stepsLeft_start_le (type : DomainType) :
    stepsLeft registry (start registry type) ≤
      1 + (registry.definitions.map fun definition => definition.supertypes.length).sum := by
  have first : (start registry type).pending.length ≤ 1 := Option.length_toList_le
  have others := List.sum_le_sum fun definition (_ : definition ∈ registry.definitions) =>
    List.length_filterMap_le registry.named? definition.supertypes
  rw [stepsLeft, unvisited_start]
  exact Nat.add_le_add first others

theorem exists_iterate_step_start_eq (built : registry.IsBuilt)
    (distinct : registry.HasDistinctNames) (type : DomainType) :
    ∃ steps ≤ 1 + (registry.definitions.map fun definition =>
        definition.supertypes.length).sum,
      (step registry)^[steps] (start registry type) = ⟨registry.lineage type, []⟩ := by
  rw [← listing_start]
  exact exists_iterate_step_eq built distinct (isFrom_start type) (stepsLeft_start_le type)

/-- What every step keeps holds of the lineage, with nothing left to look at. -/
theorem isFrom_lineage (built : registry.IsBuilt) (distinct : registry.HasDistinctNames)
    (type : DomainType) : IsFrom registry type ⟨registry.lineage type, []⟩ := by
  obtain ⟨steps, _, ends⟩ := exists_iterate_step_start_eq built distinct type
  rw [← ends]
  exact (isFrom_start type).iterate_step built distinct steps

end SupertypeWalk

/-! ## Lineages, assignability and subtypes -/

namespace TypeRegistry

variable {registry : TypeRegistry}

theorem nodup_lineage (built : registry.IsBuilt) (distinct : registry.HasDistinctNames)
    (type : DomainType) : (registry.lineage type).Nodup :=
  (SupertypeWalk.isFrom_lineage built distinct type).distinct.of_map _

theorem mem_lineage_iff (built : registry.IsBuilt) (distinct : registry.HasDistinctNames)
    {type : DomainType} {definition : TypeDefinition} :
    definition ∈ registry.lineage type ↔ registry.IsAncestor type definition :=
  (SupertypeWalk.isFrom_lineage built distinct type).mem_visited_iff

theorem isAssignable_iff (built : registry.IsBuilt) (distinct : registry.HasDistinctNames)
    {target candidate : DomainType} :
    registry.isAssignable target candidate = true ↔
      ∃ definition, registry.IsAncestor candidate definition ∧ definition.type = target := by
  simp only [isAssignable, List.any_eq_true, mem_lineage_iff built distinct,
    decide_eq_true_iff]

/-- The ancestors of a registered type are reached from its own definition. -/
theorem isAncestor_iff_reaches (built : registry.IsBuilt) {lower upper : TypeDefinition}
    (registered : lower ∈ registry.definitions) :
    registry.IsAncestor lower.type upper ↔ registry.Reaches lower upper := by
  have found : registry.definition? lower.type.typeName = some lower :=
    built.definition?_eq_some_iff.mpr ⟨registered, rfl⟩
  constructor
  · rintro ⟨other, otherFound, reaches⟩
    obtain rfl := Option.some.inj (otherFound.symm.trans found)
    exact reaches
  · intro reaches
    exact ⟨lower, found, reaches⟩

theorem isAssignable_trans (built : registry.IsBuilt) (distinct : registry.HasDistinctNames)
    {upper middle lower : DomainType} (first : registry.isAssignable middle lower = true)
    (second : registry.isAssignable upper middle = true) :
    registry.isAssignable upper lower = true := by
  rw [isAssignable_iff built distinct] at first second ⊢
  obtain ⟨between, ⟨start, found, reaches⟩, rfl⟩ := first
  obtain ⟨top, ancestor, rfl⟩ := second
  have registered := IsAncestor.registered built ⟨start, found, reaches⟩
  have above := (isAncestor_iff_reaches built registered).mp ancestor
  exact ⟨top, ⟨start, found, reaches.trans above⟩, rfl⟩

open Classical in
theorem subtypes_eq (built : registry.IsBuilt) (distinct : registry.HasDistinctNames)
    (type : DomainType) (space : Option String) :
    registry.subtypes type space =
      (registry.definitions.filter fun lower =>
        decide ((∀ named, space = some named → lower.type.typeName.space = named) ∧
          ∃ upper, registry.Reaches lower upper ∧ upper.type = type)).map TypeDefinition.type := by
  rw [subtypes, List.filter_map]
  refine congrArg (List.map TypeDefinition.type) (List.filter_congr fun lower registered => ?_)
  rw [Bool.eq_iff_iff, decide_eq_true_iff, Function.comp_apply, Bool.and_eq_true,
    isAssignable_iff built distinct]
  simp only [isAncestor_iff_reaches built registered, Option.all_eq_true, decide_eq_true_iff]

open Classical in
/--
In a registry of distinct qualified names the walk from a type ends, at the
latest after one step for the type and one for each declared supertype; it lists
every definition once, and lists exactly those that are reached along supertypes
that can be read and are registered.  So a type is assignable from those that
reach it, assignability is transitive, and the subtypes of a type are the
registered types that reach it, in order of registration.
-/
theorem lineage_reaches_exactly (built : registry.IsBuilt)
    (distinct : registry.HasDistinctNames) :
    (∀ type, ∃ steps ≤ 1 + (registry.definitions.map fun definition =>
        definition.supertypes.length).sum,
      (SupertypeWalk.step registry)^[steps] (SupertypeWalk.start registry type) =
        ⟨registry.lineage type, []⟩) ∧
    (∀ type, (registry.lineage type).Nodup) ∧
    (∀ type definition,
      definition ∈ registry.lineage type ↔ registry.IsAncestor type definition) ∧
    (∀ target candidate, registry.isAssignable target candidate = true ↔
      ∃ definition, registry.IsAncestor candidate definition ∧ definition.type = target) ∧
    (∀ upper middle lower, registry.isAssignable middle lower = true →
      registry.isAssignable upper middle = true → registry.isAssignable upper lower = true) ∧
    ∀ type space, registry.subtypes type space =
      (registry.definitions.filter fun lower =>
        decide ((∀ named, space = some named → lower.type.typeName.space = named) ∧
          ∃ upper, registry.Reaches lower upper ∧ upper.type = type)).map TypeDefinition.type := by
  refine ⟨?_, ?_, ?_, ?_, ?_, ?_⟩
  · exact SupertypeWalk.exists_iterate_step_start_eq built distinct
  · exact nodup_lineage built distinct
  · exact fun type definition => mem_lineage_iff built distinct
  · exact fun target candidate => isAssignable_iff built distinct
  · exact fun upper middle lower => isAssignable_trans built distinct
  · exact subtypes_eq built distinct

/-- An animal is its own supertype and a pet's, and a pet is an animal's. -/
def animal : TypeDefinition where
  type := { typeName := ⟨"zoo", "Animal"⟩, isAbstract := true }
  supertypes := ["zoo::Animal", "zoo.Pet"]

def pet : TypeDefinition where
  type := { typeName := ⟨"zoo", "Pet"⟩, isInterface := true }
  supertypes := ["zoo::Animal", "zoo::Ghost"]

/-- A cat names its supertypes in both notations, one of them twice. -/
def cat : TypeDefinition where
  type := { typeName := ⟨"zoo", "Cat"⟩ }
  supertypes := ["zoo::Pet", "zoo.Animal", "zoo.Pet", "cats"]

def circularZoo : TypeRegistry :=
  ((empty.add animal).add pet).add cat

theorem isBuilt_circularZoo : circularZoo.IsBuilt := by
  have first : (empty.add animal).IsBuilt :=
    .register .empty (register_eq_ok_iff.mpr ⟨by decide, rfl⟩)
  have second : ((empty.add animal).add pet).IsBuilt :=
    .register first (register_eq_ok_iff.mpr ⟨by decide, rfl⟩)
  exact .register second (register_eq_ok_iff.mpr ⟨by decide, rfl⟩)

theorem isAncestor_circularZoo_iff :
    circularZoo.IsBuilt ∧ circularZoo.HasDistinctNames ∧
      (∀ definition, circularZoo.IsAncestor cat.type definition ↔
        definition ∈ [cat, pet, animal]) ∧
      circularZoo.isAssignable animal.type cat.type = true ∧
      ∃ definition, circularZoo.IsAncestor cat.type definition ∧
        definition.type = animal.type := by
  have distinct : circularZoo.HasDistinctNames := by
    rw [HasDistinctNames]
    decide
  have reached := lineage_reaches_exactly isBuilt_circularZoo distinct
  have listed : circularZoo.lineage cat.type = [cat, pet, animal] := by cbv
  have assignable : circularZoo.isAssignable animal.type cat.type = true := by
    rw [isAssignable, listed]
    decide
  refine ⟨isBuilt_circularZoo, distinct, ?_, assignable, ?_⟩
  · intro definition
    rw [← listed]
    exact (reached.2.2.1 cat.type definition).symm
  · exact (reached.2.2.2.1 animal.type cat.type).mp assignable

end TypeRegistry

end FormWidgets
