import FormWidgets.Proofs.TypeSystem.Ancestry
import Mathlib

/-!
# Distance of ancestors

The distance of an ancestor is the least number of supertype steps that lead to it.
A lineage is a depth-first walk, so it need not list the ancestors by distance: the
whole lineage of the first supertype comes before the second supertype.

What holds of every lineage is that the type itself is first and that an ancestor
comes after ancestors of every smaller distance.  The ancestors are in order of
distance exactly when the walk never visits one while a nearer one is pending; this
is so when only the last supertype of each ancestor leads farther away.
-/

namespace FormWidgets

namespace TypeRegistry

/-- A definition leads to another one in a number of supertype steps. -/
inductive ReachesIn (registry : TypeRegistry) (lower : TypeDefinition) :
    Nat → TypeDefinition → Prop where
  | refl : ReachesIn registry lower 0 lower
  | tail {steps : Nat} {middle upper : TypeDefinition}
      (below : ReachesIn registry lower steps middle)
      (direct : registry.HasSupertype middle upper) : ReachesIn registry lower (steps + 1) upper

/-- The least number of supertype steps from a definition to one that it reaches. -/
noncomputable def distance (registry : TypeRegistry) (lower upper : TypeDefinition) : Nat :=
  sInf {steps | registry.ReachesIn lower steps upper}

/-- The lineage of a definition lists no ancestor before a nearer one. -/
def ListsNearestFirst (registry : TypeRegistry) (lower : TypeDefinition) : Prop :=
  (registry.lineage lower.type).Pairwise fun left right =>
    registry.distance lower left ≤ registry.distance lower right

/-- Of the registered supertypes of an ancestor, only the last one leads farther away than it is. -/
def OnlyLastLeadsOn (registry : TypeRegistry) (lower : TypeDefinition) : Prop :=
  ∀ middle, registry.Reaches lower middle →
    ∀ others last, registry.supertypesOf middle = others ++ [last] →
      ∀ other ∈ others, ∀ upper, registry.HasSupertype other upper →
        registry.distance lower upper ≤ registry.distance lower middle

variable {registry : TypeRegistry} {lower middle upper : TypeDefinition}

/-! ## Least numbers of steps -/

theorem ReachesIn.reaches {steps : Nat} (reaches : registry.ReachesIn lower steps upper) :
    registry.Reaches lower upper := by
  induction reaches with
  | refl => exact .refl
  | tail _ direct below => exact below.tail direct

theorem Reaches.exists_reachesIn (reaches : registry.Reaches lower upper) :
    ∃ steps, registry.ReachesIn lower steps upper := by
  induction reaches with
  | refl => exact ⟨0, .refl⟩
  | tail _ direct below =>
      obtain ⟨steps, below⟩ := below
      exact ⟨steps + 1, below.tail direct⟩

theorem Reaches.reachesIn_distance (reaches : registry.Reaches lower upper) :
    registry.ReachesIn lower (registry.distance lower upper) upper :=
  Nat.sInf_mem reaches.exists_reachesIn

theorem ReachesIn.distance_le {steps : Nat} (reaches : registry.ReachesIn lower steps upper) :
    registry.distance lower upper ≤ steps :=
  Nat.sInf_le reaches

theorem distance_self (registry : TypeRegistry) (lower : TypeDefinition) :
    registry.distance lower lower = 0 :=
  Nat.le_zero.mp ReachesIn.refl.distance_le

theorem distance_le_succ (reaches : registry.Reaches lower middle)
    (direct : registry.HasSupertype middle upper) :
    registry.distance lower upper ≤ registry.distance lower middle + 1 :=
  (reaches.reachesIn_distance.tail direct).distance_le

/-- Another definition is a direct supertype of one that is nearer by one step. -/
theorem Reaches.eq_or_exists_nearer (reaches : registry.Reaches lower upper) :
    upper = lower ∨ ∃ middle, registry.Reaches lower middle ∧
      registry.HasSupertype middle upper ∧
      registry.distance lower upper = registry.distance lower middle + 1 := by
  have shortest := reaches.reachesIn_distance
  generalize least : registry.distance lower upper = steps at shortest
  cases shortest with
  | refl => exact .inl rfl
  | tail below direct =>
      have notFarther := distance_le_succ below.reaches direct
      have near := below.distance_le
      exact .inr ⟨_, below.reaches, direct, by omega⟩

end TypeRegistry

/-! ## States of a walk -/

namespace SupertypeWalk

open TypeRegistry

/-- The walk from a type comes by a state. -/
def Passes (registry : TypeRegistry) (type : DomainType) (walk : SupertypeWalk) : Prop :=
  ∃ steps, (step registry)^[steps] (start registry type) = walk

variable {registry : TypeRegistry} {type : DomainType} {walk : SupertypeWalk}

/-- What holds at the start and is kept by every step holds of all states. -/
theorem Passes.induction {motive : SupertypeWalk → Prop}
    (atStart : motive (start registry type))
    (keeps : ∀ walk, Passes registry type walk → motive walk → motive (walk.step registry))
    (passes : Passes registry type walk) : motive walk := by
  obtain ⟨steps, rfl⟩ := passes
  induction steps with
  | zero => exact atStart
  | succ steps before =>
      rw [Function.iterate_succ_apply']
      exact keeps _ ⟨steps, rfl⟩ before

theorem Passes.step (passes : Passes registry type walk) :
    Passes registry type (walk.step registry) := by
  obtain ⟨steps, rfl⟩ := passes
  exact ⟨steps + 1, Function.iterate_succ_apply' _ _ _⟩

theorem Passes.isFrom (built : registry.IsBuilt) (distinct : registry.HasDistinctNames)
    (passes : Passes registry type walk) : IsFrom registry type walk :=
  passes.induction (isFrom_start type) fun _ _ isFrom => isFrom.step built distinct

theorem IsFrom.registered_of_mem_pending (built : registry.IsBuilt)
    (isFrom : IsFrom registry type walk) :
    ∀ definition ∈ walk.pending, definition ∈ registry.definitions :=
  fun definition pending =>
    (isFrom.reached definition (List.mem_append_right _ pending)).registered built

/-- Every state has the same to list in the end. -/
theorem Passes.listing_eq (built : registry.IsBuilt) (distinct : registry.HasDistinctNames)
    (passes : Passes registry type walk) : listing registry walk = registry.lineage type := by
  refine passes.induction (motive := fun walk => listing registry walk = registry.lineage type)
    (listing_start type) ?_
  intro walk passed same
  have isFrom := passed.isFrom built distinct
  rw [listing_step (isFrom.registered_of_mem_pending built), same]

theorem IsFrom.hasVisited_iff_mem (built : registry.IsBuilt)
    (distinct : registry.HasDistinctNames) {visited rest : List TypeDefinition}
    {definition : TypeDefinition} (isFrom : IsFrom registry type ⟨visited, definition :: rest⟩) :
    hasVisited ⟨visited, definition :: rest⟩ definition.type.qualifiedName = true ↔
      definition ∈ visited := by
  constructor
  · exact isFrom.mem_visited_of_hasVisited built distinct List.mem_cons_self
  · exact fun member => hasVisited_iff.mpr ⟨definition, member, rfl⟩

/-- The walk from a type visits a definition next, with others visited before and others pending. -/
structure Visits (registry : TypeRegistry) (type : DomainType) (before : List TypeDefinition)
    (definition : TypeDefinition) (rest : List TypeDefinition) : Prop where
  passes : Passes registry type ⟨before, definition :: rest⟩
  fresh : definition ∉ before

theorem Visits.step_eq (built : registry.IsBuilt) (distinct : registry.HasDistinctNames)
    {before rest : List TypeDefinition} {definition : TypeDefinition}
    (visits : Visits registry type before definition rest) :
    step registry ⟨before, definition :: rest⟩ =
      ⟨before ++ [definition], registry.supertypesOf definition ++ rest⟩ := by
  have isFrom := visits.passes.isFrom built distinct
  exact step_of_not_hasVisited (mt (isFrom.hasVisited_iff_mem built distinct).mp visits.fresh)

/-- A definition that is visited next is listed behind those visited before. -/
theorem Visits.exists_lineage_eq (built : registry.IsBuilt)
    (distinct : registry.HasDistinctNames) {before rest : List TypeDefinition}
    {definition : TypeDefinition} (visits : Visits registry type before definition rest) :
    ∃ after, registry.lineage type = before ++ definition :: after := by
  have listed := visits.passes.step.listing_eq built distinct
  rw [visits.step_eq built distinct, listing, List.append_assoc] at listed
  exact ⟨_, listed.symm⟩

/-- From a state on, every definition that is still to be listed comes to be visited. -/
theorem Passes.exists_visits (built : registry.IsBuilt) (distinct : registry.HasDistinctNames)
    {bound : Nat} {between after : List TypeDefinition} {definition : TypeDefinition}
    (passes : Passes registry type walk) (bounded : stepsLeft registry walk ≤ bound)
    (listed : registry.lineage type = walk.visited ++ (between ++ definition :: after)) :
    ∃ rest, Visits registry type (walk.visited ++ between) definition rest := by
  -- Every step takes from the bound, and a step that visits another definition takes it off `between`.
  induction bound generalizing walk between with
  | zero =>
      obtain ⟨visited, _ | ⟨first, pending⟩⟩ := walk
      · simp [← passes.listing_eq built distinct] at listed
      · simp [stepsLeft] at bounded
  | succ bound later =>
      have isFrom := passes.isFrom built distinct
      obtain ⟨visited, _ | ⟨first, pending⟩⟩ := walk
      · simp [← passes.listing_eq built distinct] at listed
      · have registered : first ∈ registry.definitions :=
          isFrom.registered_of_mem_pending built first List.mem_cons_self
        have fewer := stepsLeft_step_lt visited pending registered
        have next := passes.step
        by_cases early : first ∈ visited
        · rw [step_of_hasVisited ((isFrom.hasVisited_iff_mem built distinct).mpr early)]
            at next fewer
          have found := later next (by omega) listed
          exact found
        · have visits : Visits registry type visited first pending := ⟨passes, early⟩
          obtain ⟨more, listedToo⟩ := visits.exists_lineage_eq built distinct
          have behind := List.append_cancel_left (listedToo.symm.trans listed)
          rw [visits.step_eq built distinct] at next fewer
          rcases between with _ | ⟨head, between⟩
          · obtain ⟨rfl, _⟩ := List.cons.inj behind
            rw [List.append_nil]
            exact ⟨pending, visits⟩
          · obtain ⟨rfl, _⟩ := List.cons.inj behind
            rw [List.cons_append, List.append_cons] at listed
            have found := later next (by omega) listed
            rwa [List.append_assoc] at found

theorem exists_visits_of_lineage_eq (built : registry.IsBuilt)
    (distinct : registry.HasDistinctNames) {before after : List TypeDefinition}
    {definition : TypeDefinition}
    (listed : registry.lineage type = before ++ definition :: after) :
    ∃ rest, Visits registry type before definition rest :=
  Passes.exists_visits built distinct ⟨0, rfl⟩ (Nat.le_refl _) listed

/-- What is pending is where the walk started, or a direct supertype of something visited. -/
def IsGrounded (registry : TypeRegistry) (type : DomainType) (walk : SupertypeWalk) : Prop :=
  ∀ upper ∈ walk.pending, registry.definition? type.typeName = some upper ∨
    ∃ middle ∈ walk.visited, registry.HasSupertype middle upper

theorem isGrounded_start (registry : TypeRegistry) (type : DomainType) :
    IsGrounded registry type (start registry type) :=
  fun _ pending => .inl (Option.mem_toList.mp pending)

theorem IsGrounded.step (grounded : IsGrounded registry type walk) :
    IsGrounded registry type (walk.step registry) := by
  obtain ⟨visited, _ | ⟨definition, rest⟩⟩ := walk
  · exact grounded
  · by_cases met : hasVisited ⟨visited, definition :: rest⟩ definition.type.qualifiedName = true
    · rw [step_of_hasVisited met]
      exact fun upper pending => grounded upper (List.mem_cons_of_mem _ pending)
    · rw [step_of_not_hasVisited met]
      intro upper pending
      rcases List.mem_append.mp pending with above | later
      · exact .inr ⟨definition, List.mem_append_right _ List.mem_cons_self,
          registry.mem_supertypesOf.mp above⟩
      · rcases grounded upper (List.mem_cons_of_mem _ later) with origin | ⟨middle, early, direct⟩
        · exact .inl origin
        · exact .inr ⟨middle, List.mem_append_left _ early, direct⟩

theorem Passes.isGrounded (passes : Passes registry type walk) : IsGrounded registry type walk :=
  passes.induction (isGrounded_start registry type) fun _ _ grounded => grounded.step

end SupertypeWalk

/-! ## Order of lineages -/

namespace TypeRegistry

open SupertypeWalk

variable {registry : TypeRegistry} {lower upper : TypeDefinition}

theorem IsBuilt.definition?_typeName (built : registry.IsBuilt)
    (registered : lower ∈ registry.definitions) :
    registry.definition? lower.type.typeName = some lower :=
  built.definition?_eq_some_iff.mpr ⟨registered, rfl⟩

theorem lineage_eq_cons (built : registry.IsBuilt) (registered : lower ∈ registry.definitions) :
    ∃ ancestors, registry.lineage lower.type = lower :: ancestors := by
  have unvisited : registry.definitions.any (isNamed lower.type.qualifiedName) = true :=
    List.any_eq_true.mpr ⟨lower, registered, decide_eq_true rfl⟩
  rw [lineage, built.definition?_typeName registered, Option.toList_some,
    walk_cons_of_unvisited unvisited]
  exact ⟨_, rfl⟩

theorem mem_lineage_iff_reaches (built : registry.IsBuilt) (distinct : registry.HasDistinctNames)
    (registered : lower ∈ registry.definitions) :
    upper ∈ registry.lineage lower.type ↔ registry.Reaches lower upper :=
  (mem_lineage_iff built distinct).trans (isAncestor_iff_reaches built registered)

/-- Before an ancestor stand ancestors of every smaller distance. -/
theorem exists_nearer_before (built : registry.IsBuilt) (distinct : registry.HasDistinctNames)
    (registered : lower ∈ registry.definitions) {before after : List TypeDefinition}
    (listed : registry.lineage lower.type = before ++ upper :: after) {steps : Nat}
    (fewer : steps < registry.distance lower upper) :
    ∃ nearer ∈ before, registry.distance lower nearer = steps := by
  -- The subtype from which the walk came to the ancestor stands before it, in a shorter part.
  induction size : before.length using Nat.strong_induction_on generalizing before upper after with
  | _ count shorter =>
    obtain ⟨rest, visits⟩ := exists_visits_of_lineage_eq built distinct listed
    rcases visits.passes.isGrounded upper List.mem_cons_self with
      origin | ⟨middle, early, direct⟩
    · rw [built.definition?_typeName registered, Option.some.injEq] at origin
      rw [← origin, distance_self] at fewer
      exact absurd fewer (Nat.not_lt_zero _)
    · have reached : registry.Reaches lower middle := by
        rw [← mem_lineage_iff_reaches built distinct registered, listed]
        exact List.mem_append_left _ early
      have next := distance_le_succ reached direct
      rcases Nat.lt_or_eq_of_le (show steps ≤ registry.distance lower middle by omega) with
        nearer | rfl
      · obtain ⟨first, second, rfl⟩ := List.append_of_mem early
        have earlier : registry.lineage lower.type =
            first ++ middle :: (second ++ upper :: after) := by
          rw [listed, List.append_assoc, List.cons_append]
        have smaller : first.length < count := by
          rw [← size, List.length_append, List.length_cons]
          omega
        obtain ⟨found, member, atSteps⟩ := shorter _ smaller earlier nearer rfl
        exact ⟨found, List.mem_append_left _ member, atSteps⟩
      · exact ⟨middle, early, rfl⟩

/-- Before an ancestor is visited, one that is no farther away is pending. -/
theorem exists_pending_no_farther (built : registry.IsBuilt)
    (registered : lower ∈ registry.definitions) {walk : SupertypeWalk}
    (isFrom : IsFrom registry lower.type walk) (reaches : registry.Reaches lower upper)
    (fresh : upper ∉ walk.visited) :
    ∃ other ∈ walk.pending, other ∉ walk.visited ∧
      registry.distance lower other ≤ registry.distance lower upper := by
  -- On a shortest way to the ancestor, the first definition that is not visited is pending.
  induction away : registry.distance lower upper using Nat.strong_induction_on
    generalizing upper with
  | _ steps nearer =>
    have pendingOf : upper ∈ walk.visited ++ walk.pending → upper ∈ walk.pending :=
      fun member => (List.mem_append.mp member).resolve_left fresh
    rcases reaches.eq_or_exists_nearer with rfl | ⟨middle, below, direct, isNext⟩
    · have origin := isFrom.origin upper (built.definition?_typeName registered)
      exact ⟨upper, pendingOf origin, fresh, away.le⟩
    · by_cases visited : middle ∈ walk.visited
      · exact ⟨upper, pendingOf (isFrom.closed middle visited upper direct), fresh, away.le⟩
      · obtain ⟨other, pending, unvisited, near⟩ :=
          nearer _ (by omega) below visited rfl
        exact ⟨other, pending, unvisited, by omega⟩

/-- A list is in order when every element is before all that follow it. -/
theorem pairwise_of_forall_split {α : Type} {related : α → α → Prop} {items : List α}
    (follows : ∀ before item after, items = before ++ item :: after →
      ∀ other ∈ after, related item other) : items.Pairwise related := by
  rw [List.pairwise_iff_forall_sublist]
  intro item other both
  obtain ⟨first, second, rfl, member, last⟩ := List.cons_sublist_iff.mp both
  obtain ⟨before, between, rfl⟩ := List.append_of_mem member
  refine follows before item (between ++ second) ?_ other ?_
  · rw [List.append_assoc, List.cons_append]
  · exact List.mem_append_right _ (List.singleton_sublist.mp last)

/--
A lineage is nearest first exactly when the walk never visits a definition while a
nearer one is pending.
-/
theorem listsNearestFirst_iff (built : registry.IsBuilt) (distinct : registry.HasDistinctNames)
    (registered : lower ∈ registry.definitions) :
    registry.ListsNearestFirst lower ↔
      ∀ before upper rest, Visits registry lower.type before upper rest →
        ∀ other ∈ rest, other ∉ before →
          registry.distance lower upper ≤ registry.distance lower other := by
  constructor
  · intro inOrder before upper rest visits other pending fresh
    obtain ⟨after, listed⟩ := visits.exists_lineage_eq built distinct
    have ancestor := (visits.passes.isFrom built distinct).reached other
      (List.mem_append_right _ (List.mem_cons_of_mem _ pending))
    rw [← mem_lineage_iff built distinct, listed] at ancestor
    rw [ListsNearestFirst, listed, List.pairwise_append, List.pairwise_cons] at inOrder
    rcases List.mem_cons.mp ((List.mem_append.mp ancestor).resolve_left fresh) with rfl | later
    · exact Nat.le_refl _
    · exact inOrder.2.1.1 other later
  · intro nothingNearer
    apply pairwise_of_forall_split
    intro before upper after listed other later
    obtain ⟨rest, visits⟩ := exists_visits_of_lineage_eq built distinct listed
    have unrepeated := nodup_lineage built distinct lower.type
    rw [listed, List.nodup_append] at unrepeated
    have fresh : other ∉ before :=
      fun early => unrepeated.2.2 other early other (List.mem_cons_of_mem _ later) rfl
    have reaches : registry.Reaches lower other := by
      rw [← mem_lineage_iff_reaches built distinct registered, listed]
      exact List.mem_append_right _ (List.mem_cons_of_mem _ later)
    obtain ⟨near, pending, unvisited, noFarther⟩ := exists_pending_no_farther built registered
      (visits.passes.isFrom built distinct) reaches fresh
    rcases List.mem_cons.mp pending with rfl | pending
    · exact noFarther
    · exact (nothingNearer before upper rest visits near pending unvisited).trans noFarther

/-! ## Hierarchies that lead on at the last supertype -/

/--
A walk has come to a distance: all that is nearer is visited, nothing is known that is
farther, and apart from the last one the pending definitions lead to visited ones only.
-/
structure IsAtDistance (registry : TypeRegistry) (lower : TypeDefinition) (steps : Nat)
    (walk : SupertypeWalk) : Prop where
  nearer : ∀ upper, registry.Reaches lower upper → registry.distance lower upper < steps →
    upper ∈ walk.visited
  noFarther : ∀ upper ∈ walk.visited ++ walk.pending, registry.distance lower upper ≤ steps
  settled : ∀ others last, walk.pending = others ++ [last] → ∀ other ∈ others,
    other ∈ walk.visited ∨ ∀ upper, registry.HasSupertype other upper → upper ∈ walk.visited

variable {steps : Nat} {visited rest : List TypeDefinition} {definition : TypeDefinition}

theorem IsAtDistance.drop
    (isAt : registry.IsAtDistance lower steps ⟨visited, definition :: rest⟩) :
    registry.IsAtDistance lower steps ⟨visited, rest⟩ where
  nearer := isAt.nearer
  noFarther upper member := by
    apply isAt.noFarther upper
    have fewer := List.Sublist.append_left (List.sublist_cons_self definition rest) visited
    exact fewer.subset member
  settled others last ends other member :=
    isAt.settled (definition :: others) last (congrArg (definition :: ·) ends) other
      (List.mem_cons_of_mem _ member)

/-- A definition that is not the last pending one adds nothing that is not visited. -/
theorem IsAtDistance.visit_other {others : List TypeDefinition} {last : TypeDefinition}
    (isAt : registry.IsAtDistance lower steps ⟨visited, definition :: (others ++ [last])⟩)
    (fresh : definition ∉ visited) :
    registry.IsAtDistance lower steps
      ⟨visited ++ [definition], registry.supertypesOf definition ++ (others ++ [last])⟩ := by
  have known : ∀ upper ∈ registry.supertypesOf definition, upper ∈ visited := by
    intro upper above
    have settled := isAt.settled (definition :: others) last rfl definition List.mem_cons_self
    exact settled.resolve_left fresh upper (registry.mem_supertypesOf.mp above)
  constructor
  case nearer =>
    exact fun upper reaches near => List.mem_append_left _ (isAt.nearer upper reaches near)
  case noFarther =>
    intro upper member
    apply isAt.noFarther upper
    have knownToo := known upper
    simp only [List.mem_append, List.mem_cons] at member ⊢
    tauto
  case settled =>
    intro front final ends other member
    rw [← List.append_assoc] at ends
    obtain ⟨rfl, _⟩ := List.append_inj' ends rfl
    rcases List.mem_append.mp member with above | pending
    · exact .inl (List.mem_append_left _ (known other above))
    · rcases isAt.settled (definition :: others) last rfl other
        (List.mem_cons_of_mem _ pending) with early | leads
      · exact .inl (List.mem_append_left _ early)
      · exact .inr fun upper direct => List.mem_append_left _ (leads upper direct)

/-- When the last pending definition is visited, everything of its distance is. -/
theorem IsAtDistance.visit_last (built : registry.IsBuilt)
    (registered : lower ∈ registry.definitions) (leadsOn : registry.OnlyLastLeadsOn lower)
    (isFrom : IsFrom registry lower.type ⟨visited, [definition]⟩)
    (isAt : registry.IsAtDistance lower steps ⟨visited, [definition]⟩) :
    registry.IsAtDistance lower (steps + 1)
      ⟨visited ++ [definition], registry.supertypesOf definition⟩ := by
  have reaches : registry.Reaches lower definition :=
    (isAncestor_iff_reaches built registered).mp
      (isFrom.reached definition (List.mem_append_right _ List.mem_cons_self))
  have nearer : ∀ upper, registry.Reaches lower upper →
      registry.distance lower upper < steps + 1 → upper ∈ visited ++ [definition] := by
    intro upper reached near
    rcases reached.eq_or_exists_nearer with rfl | ⟨middle, below, direct, isNext⟩
    · exact isFrom.origin upper (built.definition?_typeName registered)
    · have early := isAt.nearer middle below (by omega)
      exact isFrom.closed middle early upper direct
  have noFarther : registry.distance lower definition ≤ steps :=
    isAt.noFarther definition (List.mem_append_right _ List.mem_cons_self)
  constructor
  case nearer => exact nearer
  case noFarther =>
    intro upper member
    rcases List.mem_append.mp member with known | above
    · exact Nat.le_succ_of_le (isAt.noFarther upper known)
    · have next := distance_le_succ reaches (registry.mem_supertypesOf.mp above)
      omega
  case settled =>
    intro others last ends other member
    right
    intro upper direct
    have near := leadsOn definition reaches others last ends other member upper direct
    have isAncestor : registry.HasSupertype definition other := by
      rw [← registry.mem_supertypesOf, show registry.supertypesOf definition = _ from ends]
      exact List.mem_append_left _ member
    exact nearer upper ((reaches.tail isAncestor).tail direct) (by omega)

theorem isAtDistance_start (built : registry.IsBuilt)
    (registered : lower ∈ registry.definitions) :
    registry.IsAtDistance lower 0 (start registry lower.type) := by
  have begins : start registry lower.type = ⟨[], [lower]⟩ := by
    rw [start, built.definition?_typeName registered]
    rfl
  rw [begins]
  constructor
  case nearer => exact fun upper _ nearer => absurd nearer (Nat.not_lt_zero _)
  case noFarther =>
    intro upper member
    rw [List.mem_singleton.mp member, distance_self]
  case settled =>
    intro others last ends other member
    obtain ⟨rfl, _⟩ := List.append_inj' (show [] ++ [lower] = others ++ [last] from ends) rfl
    cases member

/-- A step stays at a distance, or goes on to the next one at the last pending definition. -/
theorem IsAtDistance.exists_step (built : registry.IsBuilt)
    (distinct : registry.HasDistinctNames) (registered : lower ∈ registry.definitions)
    (leadsOn : registry.OnlyLastLeadsOn lower) {walk : SupertypeWalk}
    (passes : Passes registry lower.type walk) (isAt : registry.IsAtDistance lower steps walk) :
    ∃ further, registry.IsAtDistance lower further (walk.step registry) := by
  have isFrom := passes.isFrom built distinct
  obtain ⟨visited, _ | ⟨definition, rest⟩⟩ := walk
  · exact ⟨steps, isAt⟩
  · by_cases early : definition ∈ visited
    · rw [step_of_hasVisited ((isFrom.hasVisited_iff_mem built distinct).mpr early)]
      exact ⟨steps, isAt.drop⟩
    · rw [Visits.step_eq built distinct ⟨passes, early⟩]
      rcases List.eq_nil_or_concat' rest with rfl | ⟨others, last, rfl⟩
      · rw [List.append_nil]
        exact ⟨steps + 1, isAt.visit_last built registered leadsOn isFrom⟩
      · exact ⟨steps, isAt.visit_other early⟩

theorem exists_isAtDistance (built : registry.IsBuilt) (distinct : registry.HasDistinctNames)
    (registered : lower ∈ registry.definitions) (leadsOn : registry.OnlyLastLeadsOn lower)
    {walk : SupertypeWalk} (passes : Passes registry lower.type walk) :
    ∃ steps, registry.IsAtDistance lower steps walk :=
  passes.induction (motive := fun walk => ∃ steps, registry.IsAtDistance lower steps walk)
    ⟨0, isAtDistance_start built registered⟩ fun _ passed ⟨_, isAt⟩ =>
      isAt.exists_step built distinct registered leadsOn passed

theorem OnlyLastLeadsOn.listsNearestFirst (built : registry.IsBuilt)
    (distinct : registry.HasDistinctNames) (registered : lower ∈ registry.definitions)
    (leadsOn : registry.OnlyLastLeadsOn lower) : registry.ListsNearestFirst lower := by
  rw [listsNearestFirst_iff built distinct registered]
  intro before upper rest visits other pending fresh
  obtain ⟨steps, isAt⟩ := exists_isAtDistance built distinct registered leadsOn visits.passes
  have ancestor := (visits.passes.isFrom built distinct).reached other
    (List.mem_append_right _ (List.mem_cons_of_mem _ pending))
  have notNearer : steps ≤ registry.distance lower other := by
    by_contra nearer
    have reaches := (isAncestor_iff_reaches built registered).mp ancestor
    exact fresh (isAt.nearer other reaches (Nat.lt_of_not_le nearer))
  exact (isAt.noFarther upper (List.mem_append_right _ List.mem_cons_self)).trans notNearer

/-! ## Order of containment relations -/

/-- In a lineage that is nearest first the relations of a nearer ancestor stand before those of a farther one. -/
theorem ListsNearestFirst.exists_containmentRelations_eq
    (inOrder : registry.ListsNearestFirst lower) {near far : TypeDefinition}
    (nearListed : near ∈ registry.lineage lower.type)
    (farListed : far ∈ registry.lineage lower.type)
    (nearer : registry.distance lower near < registry.distance lower far) :
    ∃ before between after, registry.containmentRelations lower.type =
      before ++ registry.ownContainmentRelations near ++ between ++
        registry.ownContainmentRelations far ++ after := by
  obtain ⟨before, rest, listed⟩ := List.append_of_mem nearListed
  rw [ListsNearestFirst, listed, List.pairwise_append] at inOrder
  rw [listed] at farListed
  have later : far ∈ rest := by
    rcases List.mem_append.mp farListed with early | here | later
    · have noFarther := inOrder.2.2 far early near List.mem_cons_self
      exact absurd nearer (Nat.not_lt_of_le noFarther)
    · exact absurd nearer (Nat.lt_irrefl _)
    · assumption
  obtain ⟨between, after, rfl⟩ := List.append_of_mem later
  rw [containmentRelations, listed]
  simp only [List.flatMap_append, List.flatMap_cons, List.append_assoc]
  exact ⟨_, _, _, rfl⟩

/-! ## What holds of every lineage, and when it is nearest first -/

/--
In a registry of distinct qualified names the lineage of a registered type begins with
that type, lists what it reaches, and lists an ancestor only behind ancestors of every
smaller distance.  It is nearest first exactly when the walk never visits a definition
while a nearer one is pending, which is so when only the last supertypes lead on; then
the containment relations of a nearer ancestor stand before those of a farther one.
-/
theorem lineage_keeps_distance (built : registry.IsBuilt) (distinct : registry.HasDistinctNames)
    (registered : lower ∈ registry.definitions) :
    (∃ ancestors, registry.lineage lower.type = lower :: ancestors) ∧
    (∀ upper, upper ∈ registry.lineage lower.type ↔ registry.Reaches lower upper) ∧
    (∀ before upper after, registry.lineage lower.type = before ++ upper :: after →
      ∀ steps < registry.distance lower upper,
        ∃ nearer ∈ before, registry.distance lower nearer = steps) ∧
    (registry.ListsNearestFirst lower ↔
      ∀ before upper rest, Visits registry lower.type before upper rest →
        ∀ other ∈ rest, other ∉ before →
          registry.distance lower upper ≤ registry.distance lower other) ∧
    (registry.OnlyLastLeadsOn lower → registry.ListsNearestFirst lower) ∧
    (registry.ListsNearestFirst lower →
      ∀ near ∈ registry.lineage lower.type, ∀ far ∈ registry.lineage lower.type,
        registry.distance lower near < registry.distance lower far →
          ∃ before between after, registry.containmentRelations lower.type =
            before ++ registry.ownContainmentRelations near ++ between ++
              registry.ownContainmentRelations far ++ after) := by
  refine ⟨lineage_eq_cons built registered, ?_, ?_, ?_, ?_, ?_⟩
  · exact fun upper => mem_lineage_iff_reaches built distinct registered
  · exact fun before upper after listed steps fewer =>
      exists_nearer_before built distinct registered listed fewer
  · exact listsNearestFirst_iff built distinct registered
  · exact OnlyLastLeadsOn.listsNearestFirst built distinct registered
  · exact fun inOrder near nearListed far farListed nearer =>
      inOrder.exists_containmentRelations_eq nearListed farListed nearer

def shopItem : TypeDefinition where
  type := { typeName := ⟨"shop", "Item"⟩, isAbstract := true }
  relations := [⟨"parts", "shop::Item", true, true⟩]

def shopMedia : TypeDefinition where
  type := { typeName := ⟨"shop", "Media"⟩, isAbstract := true }
  supertypes := ["shop::Item"]

def shopPriced : TypeDefinition where
  type := { typeName := ⟨"shop", "Priced"⟩, isInterface := true }
  relations := [⟨"offers", "shop::Priced", true, true⟩]

def shopBook (supertypes : List String) : TypeDefinition where
  type := { typeName := ⟨"shop", "Book"⟩ }
  supertypes := supertypes

/-- A shop whose books declare their supertypes in a given order. -/
def bookshop (supertypes : List String) : TypeRegistry :=
  (((empty.add shopItem).add shopMedia).add shopPriced).add (shopBook supertypes)

theorem isBuilt_bookshop (supertypes : List String) : (bookshop supertypes).IsBuilt := by
  have first : (empty.add shopItem).IsBuilt :=
    .register .empty (register_eq_ok_iff.mpr ⟨by decide, rfl⟩)
  have second : ((empty.add shopItem).add shopMedia).IsBuilt :=
    .register first (register_eq_ok_iff.mpr ⟨by decide, rfl⟩)
  have third : (((empty.add shopItem).add shopMedia).add shopPriced).IsBuilt :=
    .register second (register_eq_ok_iff.mpr ⟨by decide, rfl⟩)
  have new : (((empty.add shopItem).add shopMedia).add shopPriced).position?
      (shopBook supertypes).type.typeName = none := by
    rw [show (shopBook supertypes).type.typeName = ⟨"shop", "Book"⟩ from rfl]
    decide
  exact .register third (register_eq_ok_iff.mpr ⟨new, rfl⟩)

theorem hasDistinctNames_bookshop (supertypes : List String) :
    (bookshop supertypes).HasDistinctNames := by
  have names : (bookshop supertypes).definitions.map (fun definition =>
      definition.type.qualifiedName) =
        ["shop::Item", "shop::Media", "shop::Priced", "shop::Book"] := rfl
  rw [HasDistinctNames, names]
  decide

theorem registered_shopBook (supertypes : List String) :
    shopBook supertypes ∈ (bookshop supertypes).definitions :=
  List.mem_append_right _ List.mem_cons_self

/-- With the price declared before the medium, the lineage of a book is nearest first. -/
theorem lineage_keeps_distance_in_bookshop :
    let supertypes := ["shop::Priced", "shop::Media"]
    let shop := bookshop supertypes
    let book := shopBook supertypes
    shop.IsBuilt ∧ shop.HasDistinctNames ∧ book ∈ shop.definitions ∧ shop.OnlyLastLeadsOn book ∧
      shop.lineage book.type = [book, shopPriced, shopMedia, shopItem] ∧
      shop.ListsNearestFirst book := by
  intro supertypes shop book
  have built := isBuilt_bookshop supertypes
  have distinct := hasDistinctNames_bookshop supertypes
  have registered := registered_shopBook supertypes
  have listed : shop.lineage book.type = [book, shopPriced, shopMedia, shopItem] := by cbv
  have ofBook : shop.supertypesOf book = [shopPriced, shopMedia] := by cbv
  have ofPriced : shop.supertypesOf shopPriced = [] := by cbv
  have ofMedia : shop.supertypesOf shopMedia = [shopItem] := by cbv
  have ofItem : shop.supertypesOf shopItem = [] := by cbv
  obtain ⟨_, reached, _, _, inOrder, _⟩ := lineage_keeps_distance built distinct registered
  have leadsOn : shop.OnlyLastLeadsOn book := by
    intro middle reaches others last split other member upper direct
    have ancestor := (reached middle).mpr reaches
    rw [listed] at ancestor
    simp only [List.mem_cons, List.not_mem_nil, or_false] at ancestor
    rcases ancestor with rfl | rfl | rfl | rfl
    · obtain ⟨rfl, _⟩ := List.append_inj' (show [shopPriced] ++ [shopMedia] = others ++ [last] from
        ofBook.symm.trans split) rfl
      rw [List.mem_singleton.mp member, ← shop.mem_supertypesOf, ofPriced] at direct
      cases direct
    · simp [ofPriced] at split
    · obtain ⟨rfl, _⟩ := List.append_inj' (show [] ++ [shopItem] = others ++ [last] from
        ofMedia.symm.trans split) rfl
      cases member
    · simp [ofItem] at split
  exact ⟨built, distinct, registered, leadsOn, listed, inOrder leadsOn⟩

/-- With the medium declared first, what an item is comes before the price, though it is farther away. -/
theorem not_listsNearestFirst_in_bookshop :
    let supertypes := ["shop::Media", "shop::Priced"]
    let shop := bookshop supertypes
    let book := shopBook supertypes
    shop.IsBuilt ∧ shop.HasDistinctNames ∧ book ∈ shop.definitions ∧
      shop.lineage book.type = [book, shopMedia, shopItem, shopPriced] ∧
      shop.distance book shopPriced < shop.distance book shopItem ∧
      ¬ shop.ListsNearestFirst book ∧
      shop.containmentRelations book.type =
        [⟨"parts", shopItem.type, true⟩, ⟨"offers", shopPriced.type, true⟩] := by
  intro supertypes shop book
  have built := isBuilt_bookshop supertypes
  have distinct := hasDistinctNames_bookshop supertypes
  have registered := registered_shopBook supertypes
  have listed : shop.lineage book.type = [book, shopMedia, shopItem, shopPriced] := by cbv
  have ofBook : shop.supertypesOf book = [shopMedia, shopPriced] := by cbv
  have nearPrice : shop.distance book shopPriced ≤ 1 := by
    apply ReachesIn.distance_le
    apply ReachesIn.refl.tail
    rw [← shop.mem_supertypesOf, ofBook]
    exact List.mem_cons_of_mem _ List.mem_cons_self
  have reaches : shop.Reaches book shopItem := by
    rw [← mem_lineage_iff_reaches built distinct registered, listed]
    decide
  have farItem : 1 < shop.distance book shopItem := by
    rcases reaches.eq_or_exists_nearer with same | ⟨middle, below, direct, isNext⟩
    · exact absurd same (by decide)
    · rcases below.eq_or_exists_nearer with rfl | ⟨_, _, _, isNextToo⟩
      · rw [← shop.mem_supertypesOf, ofBook] at direct
        exact absurd direct (by decide)
      · omega
  have nearer := Nat.lt_of_le_of_lt nearPrice farItem
  refine ⟨built, distinct, registered, listed, nearer, ?_, by cbv⟩
  intro inOrder
  rw [ListsNearestFirst, listed] at inOrder
  simp only [List.pairwise_cons, List.mem_singleton, forall_eq] at inOrder
  exact absurd inOrder.2.2.1 (Nat.not_le_of_lt nearer)

end TypeRegistry

end FormWidgets
