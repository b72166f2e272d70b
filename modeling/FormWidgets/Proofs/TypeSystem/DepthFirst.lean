import FormWidgets.Proofs.TypeSystem.Distance
import Mathlib

/-!
# Lineages by recursion

A lineage comes out of a loop over pending definitions.  Beside it stands the
recursion over the supertypes: a definition is visited, then its supertypes one after
the other, each with all above it, and a name that was visited anywhere before is
skipped.  The loop does what the recursion does and then goes on with what else is
pending, whatever that is.

So a type stands before its supertypes, and each of these before the next with all
that is new above it.  Where no supertype leads back to the type this is the whole
lineage of the first supertype, then what is new in that of the second, and so on.
-/

namespace FormWidgets

namespace TypeRegistry

/-- The qualified names of definitions, in order. -/
def qualifiedNames (definitions : List TypeDefinition) : List String :=
  definitions.map fun definition => definition.type.qualifiedName

/--
The recursion over supertypes: from what was visited before it leads through some
definitions, one after the other, to all that is visited then.
-/
inductive Descends (registry : TypeRegistry) :
    List TypeDefinition → List TypeDefinition → List TypeDefinition → Prop where
  | done (visited : List TypeDefinition) : Descends registry visited [] visited
  | skip {visited rest final : List TypeDefinition} {definition : TypeDefinition}
      (known : definition.type.qualifiedName ∈ qualifiedNames visited)
      (later : Descends registry visited rest final) :
      Descends registry visited (definition :: rest) final
  | visit {visited rest above final : List TypeDefinition} {definition : TypeDefinition}
      (fresh : definition.type.qualifiedName ∉ qualifiedNames visited)
      (upward : Descends registry (visited ++ [definition])
        (registry.supertypesOf definition) above)
      (later : Descends registry above rest final) :
      Descends registry visited (definition :: rest) final

/-- Definitions, and behind them those of another list that are not among them. -/
def adjoin (listed others : List TypeDefinition) : List TypeDefinition :=
  listed ++ others.filter fun definition => decide (definition ∉ listed)

/-- Definitions, and behind them the lineages of others one after the other, each less what is there already. -/
def adjoinLineages (registry : TypeRegistry) (listed uppers : List TypeDefinition) :
    List TypeDefinition :=
  uppers.foldl (fun listed upper => adjoin listed (registry.lineage upper.type)) listed

/-- A declared relation is a containment towards a registered type, and is listed as another one. -/
def ListedAs (registry : TypeRegistry) (declared : RelationDeclaration)
    (listed : ContainmentRelation) : Prop :=
  declared.containment = true ∧
    ∃ typeName target, TypeName.parse? declared.target = some typeName ∧
      registry.definition? typeName = some target ∧
      listed = ⟨declared.name, target.type, declared.many⟩

variable {registry : TypeRegistry} {visited pending rest final : List TypeDefinition}

theorem qualifiedNames_append (left right : List TypeDefinition) :
    qualifiedNames (left ++ right) = qualifiedNames left ++ qualifiedNames right :=
  List.map_append

theorem mem_qualifiedNames_of_mem {definition : TypeDefinition} (member : definition ∈ visited) :
    definition.type.qualifiedName ∈ qualifiedNames visited :=
  List.mem_map_of_mem member

theorem hasVisited_iff_mem_qualifiedNames {qualifiedName : String} :
    SupertypeWalk.hasVisited ⟨visited, pending⟩ qualifiedName = true ↔
      qualifiedName ∈ qualifiedNames visited := by
  rw [SupertypeWalk.hasVisited_iff, qualifiedNames, List.mem_map]

theorem adjoin_nil (listed : List TypeDefinition) : adjoin listed [] = listed :=
  List.append_nil listed

theorem mem_adjoin {listed others : List TypeDefinition} {definition : TypeDefinition} :
    definition ∈ adjoin listed others ↔ definition ∈ listed ∨ definition ∈ others := by
  by_cases early : definition ∈ listed <;> simp [adjoin, early]

theorem adjoin_append_of_mem {listed others : List TypeDefinition} {definition : TypeDefinition}
    (early : definition ∈ listed) :
    adjoin listed (others ++ [definition]) = adjoin listed others := by
  simp [adjoin, early]

theorem adjoin_append_of_notMem {listed others : List TypeDefinition}
    {definition : TypeDefinition} (new : definition ∉ listed) :
    adjoin listed (others ++ [definition]) = adjoin listed others ++ [definition] := by
  simp [adjoin, new]

theorem adjoinLineages_append_singleton (listed uppers : List TypeDefinition)
    (upper : TypeDefinition) :
    registry.adjoinLineages listed (uppers ++ [upper]) =
      adjoin (registry.adjoinLineages listed uppers) (registry.lineage upper.type) :=
  List.foldl_concat _ _ _ _

theorem mem_adjoinLineages {listed uppers : List TypeDefinition} {definition : TypeDefinition} :
    definition ∈ registry.adjoinLineages listed uppers ↔
      definition ∈ listed ∨ ∃ upper ∈ uppers, definition ∈ registry.lineage upper.type := by
  induction uppers using List.reverseRecOn with
  | nil => simp [adjoinLineages]
  | append_singleton uppers last before =>
      rw [adjoinLineages_append_singleton, mem_adjoin, before]
      simp only [List.mem_append, List.mem_singleton, or_and_right, exists_or, exists_eq_left,
        or_assoc]

/-! ## What the recursion leads to -/

namespace Descends

/-- Definitions are descended through one part after the other. -/
theorem append {first second middle : List TypeDefinition}
    (before : registry.Descends visited first middle)
    (after : registry.Descends middle second final) :
    registry.Descends visited (first ++ second) final := by
  induction before with
  | done => exact after
  | skip known _ behind => exact .skip known (behind after)
  | visit fresh upward _ _ behind => exact .visit fresh upward (behind after)

theorem exists_of_append {first second : List TypeDefinition}
    (descends : registry.Descends visited (first ++ second) final) :
    ∃ middle, registry.Descends visited first middle ∧ registry.Descends middle second final := by
  induction first generalizing visited with
  | nil => exact ⟨visited, .done visited, descends⟩
  | cons definition others behind =>
      cases descends with
      | skip known later =>
          obtain ⟨middle, before, after⟩ := behind later
          exact ⟨middle, .skip known before, after⟩
      | visit fresh upward later =>
          obtain ⟨middle, before, after⟩ := behind later
          exact ⟨middle, .visit fresh upward before, after⟩

theorem unique {other : List TypeDefinition} (descends : registry.Descends visited pending final)
    (again : registry.Descends visited pending other) : final = other := by
  induction descends generalizing other with
  | done =>
      cases again
      rfl
  | skip known _ sameLater =>
      cases again with
      | skip _ later => exact sameLater later
      | visit fresh _ _ => exact absurd known fresh
  | visit fresh _ _ sameUpward sameLater =>
      cases again with
      | skip known _ => exact absurd known fresh
      | visit _ upward later =>
          cases sameUpward upward
          exact sameLater later

/-- What was visited before stays in front. -/
theorem isPrefix (descends : registry.Descends visited pending final) : visited <+: final := by
  induction descends with
  | done => exact List.prefix_rfl
  | skip _ _ below => exact below
  | visit _ _ _ above below => exact (List.prefix_append _ _).trans (above.trans below)

/-- No name is visited twice. -/
theorem nodup_qualifiedNames (descends : registry.Descends visited pending final)
    (distinct : (qualifiedNames visited).Nodup) : (qualifiedNames final).Nodup := by
  induction descends with
  | done => exact distinct
  | skip _ _ later => exact later distinct
  | visit fresh _ _ upward later =>
      apply later
      apply upward
      rw [qualifiedNames_append, List.nodup_append']
      exact ⟨distinct, List.nodup_singleton _, List.disjoint_singleton.mpr fresh⟩

/-- Definitions in front make no difference to a recursion that comes to none of their names. -/
theorem append_left {before : List TypeDefinition}
    (descends : registry.Descends visited pending final)
    (apart : ∀ definition ∈ final, definition.type.qualifiedName ∉ qualifiedNames before) :
    registry.Descends (before ++ visited) pending (before ++ final) := by
  induction descends with
  | done => exact .done _
  | skip known _ behind =>
      refine .skip ?_ (behind apart)
      rw [qualifiedNames_append]
      exact List.mem_append_right _ known
  | @visit visited rest above final definition fresh upward later climbs behind =>
      have onward : above ⊆ final := later.isPrefix.subset
      have visitedHere : definition ∈ final :=
        onward (upward.isPrefix.subset (List.mem_append_right _ List.mem_cons_self))
      have climbsBehind := climbs fun upper member => apart upper (onward member)
      rw [← List.append_assoc] at climbsBehind
      refine .visit ?_ climbsBehind (behind apart)
      rw [qualifiedNames_append, List.mem_append, not_or]
      exact ⟨apart definition visitedHere, fresh⟩

/-- Nothing new is visited from definitions that were all visited before. -/
theorem eq_of_subset (descends : registry.Descends visited pending final)
    (covered : pending ⊆ visited) : final = visited := by
  induction descends with
  | done => rfl
  | skip _ _ later => exact later (List.subset_of_cons_subset covered)
  | visit fresh _ _ _ _ =>
      exact absurd (mem_qualifiedNames_of_mem (covered List.mem_cons_self)) fresh

/-- From registered definitions only registered ones are visited. -/
theorem registered (descends : registry.Descends visited pending final)
    (visitedListed : visited ⊆ registry.definitions)
    (pendingListed : pending ⊆ registry.definitions) : final ⊆ registry.definitions := by
  induction descends with
  | done => exact visitedListed
  | skip _ _ later => exact later visitedListed (List.subset_of_cons_subset pendingListed)
  | visit _ _ _ upward later =>
      obtain ⟨listed, others⟩ := List.cons_subset.mp pendingListed
      apply later _ others
      apply upward
      · exact List.append_subset.mpr ⟨visitedListed, List.cons_subset.mpr ⟨listed, List.nil_subset _⟩⟩
      · exact fun upper above => registered_of_mem_supertypesOf above

/-! ## The loop and the recursion -/

/-- The loop descends through what is pending first and then has the rest still pending. -/
theorem exists_iterate_step (descends : registry.Descends visited pending final)
    (rest : List TypeDefinition) :
    ∃ steps, (SupertypeWalk.step registry)^[steps] ⟨visited, pending ++ rest⟩ = ⟨final, rest⟩ := by
  induction descends generalizing rest with
  | done => exact ⟨0, rfl⟩
  | skip known _ later =>
      obtain ⟨steps, ends⟩ := later rest
      refine ⟨steps + 1, ?_⟩
      rw [Function.iterate_succ_apply, List.cons_append,
        SupertypeWalk.step_of_hasVisited (hasVisited_iff_mem_qualifiedNames.mpr known), ends]
  | @visit visited others above final definition fresh _ _ upward later =>
      obtain ⟨first, climbs⟩ := upward (others ++ rest)
      obtain ⟨second, ends⟩ := later rest
      refine ⟨second + (first + 1), ?_⟩
      rw [Function.iterate_add_apply, Function.iterate_succ_apply, List.cons_append,
        SupertypeWalk.step_of_not_hasVisited (mt hasVisited_iff_mem_qualifiedNames.mp fresh),
        climbs, ends]

end Descends

/-- The recursion visits what the loop visits, in its order. -/
theorem descends_append_walk {unvisited : List TypeDefinition}
    (pendingListed : pending ⊆ registry.definitions)
    (left : SupertypeWalk.unvisited registry ⟨visited, pending⟩ = unvisited) :
    registry.Descends visited pending (visited ++ registry.walk unvisited pending) := by
  induction unvisited, pending using walk.induct registry generalizing visited with
  | case1 unvisited =>
      rw [walk, List.append_nil]
      exact .done visited
  | case2 unvisited definition rest listed step =>
      obtain ⟨registered, others⟩ := List.cons_subset.mp pendingListed
      have fresh : definition.type.qualifiedName ∉ qualifiedNames visited := by
        rw [← left, SupertypeWalk.any_unvisited_iff _ registered] at listed
        exact mt hasVisited_iff_mem_qualifiedNames.mpr listed
      have onward : registry.supertypesOf definition ++ rest ⊆ registry.definitions :=
        List.append_subset.mpr ⟨fun upper above => registered_of_mem_supertypesOf above, others⟩
      have next := step onward
        ((SupertypeWalk.unvisited_visit visited _ rest definition).trans (congrArg _ left))
      obtain ⟨above, upward, later⟩ := next.exists_of_append
      rw [walk_cons_of_unvisited listed, List.append_cons]
      exact .visit fresh upward later
  | case3 unvisited definition rest dropped step =>
      obtain ⟨registered, others⟩ := List.cons_subset.mp pendingListed
      have known : definition.type.qualifiedName ∈ qualifiedNames visited := by
        rw [← left, SupertypeWalk.any_unvisited_iff _ registered, not_not] at dropped
        exact hasVisited_iff_mem_qualifiedNames.mp dropped
      rw [walk_cons_of_visited dropped]
      exact .skip known (step others left)

theorem descends_lineage (registry : TypeRegistry) (type : DomainType) :
    registry.Descends [] (registry.definition? type.typeName).toList (registry.lineage type) :=
  descends_append_walk
    (fun _ found => registered_of_definition? (Option.mem_toList.mp found))
    (SupertypeWalk.unvisited_start type)

theorem descends_iff_eq_lineage {type : DomainType} {listed : List TypeDefinition} :
    registry.Descends [] (registry.definition? type.typeName).toList listed ↔
      listed = registry.lineage type := by
  constructor
  · intro descends
    exact descends.unique (registry.descends_lineage type)
  · rintro rfl
    exact registry.descends_lineage type

/-- Behind the type itself stands what the recursion visits from its supertypes. -/
theorem descends_supertypes {type : DomainType} {root : TypeDefinition}
    (found : registry.definition? type.typeName = some root) :
    registry.Descends [root] (registry.supertypesOf root) (registry.lineage type) := by
  have descends := registry.descends_lineage type
  rw [found, Option.toList_some] at descends
  cases descends with
  | skip known _ => cases known
  | visit _ upward later =>
      cases later
      exact upward

/-! ## Lineages of supertypes -/

section DistinctNames

variable (distinct : registry.HasDistinctNames)
include distinct

theorem mem_of_mem_qualifiedNames {definition : TypeDefinition}
    (visitedListed : visited ⊆ registry.definitions)
    (registered : definition ∈ registry.definitions)
    (known : definition.type.qualifiedName ∈ qualifiedNames visited) : definition ∈ visited := by
  obtain ⟨other, member, sameName⟩ := List.mem_map.mp known
  rwa [← distinct.eq_of_qualifiedName_eq (visitedListed member) registered sameName]

/--
Behind definitions that lead only to each other, but for ways back to a root, the
recursion visits what it visits without them, less what is among them.
-/
theorem Descends.behind {covered : List TypeDefinition} {root : TypeDefinition}
    (coveredListed : covered ⊆ registry.definitions)
    (closed : ∀ lower ∈ covered, ¬ registry.Reaches lower root →
      ∀ upper, registry.HasSupertype lower upper → upper ∈ covered)
    (descends : registry.Descends visited pending final)
    (visitedListed : visited ⊆ registry.definitions)
    (pendingListed : pending ⊆ registry.definitions)
    (away : ∀ definition ∈ pending, ¬ registry.Reaches definition root) :
    registry.Descends (adjoin covered visited) pending (adjoin covered final) := by
  induction descends with
  | done => exact .done _
  | @skip visited rest final definition known _ later =>
      obtain ⟨registered, others⟩ := List.cons_subset.mp pendingListed
      have early : definition ∈ visited :=
        mem_of_mem_qualifiedNames distinct visitedListed registered known
      apply Descends.skip (mem_qualifiedNames_of_mem (mem_adjoin.mpr (.inr early)))
      exact later visitedListed others fun other below => away other (List.mem_cons_of_mem _ below)
  | @visit visited rest above final definition fresh upward _ climbs later =>
      obtain ⟨registered, others⟩ := List.cons_subset.mp pendingListed
      have apart : ¬ registry.Reaches definition root := away definition List.mem_cons_self
      have visitedToo : visited ++ [definition] ⊆ registry.definitions :=
        List.append_subset.mpr
          ⟨visitedListed, List.cons_subset.mpr ⟨registered, List.nil_subset _⟩⟩
      have higher : registry.supertypesOf definition ⊆ registry.definitions :=
        fun upper above => registered_of_mem_supertypesOf above
      have awayAbove : ∀ upper ∈ registry.supertypesOf definition,
          ¬ registry.Reaches upper root := by
        intro upper above reaches
        exact apart (reaches.head (registry.mem_supertypesOf.mp above))
      have goesUp := climbs visitedToo higher awayAbove
      have goesOn := later (upward.registered visitedToo higher) others
        fun other below => away other (List.mem_cons_of_mem _ below)
      by_cases early : definition ∈ covered
      · -- What is above it is among the covered ones as well, so nothing is left to visit there.
        rw [adjoin_append_of_mem early] at goesUp
        have same := goesUp.eq_of_subset fun upper above =>
          mem_adjoin.mpr (.inl (closed definition early apart upper
            (registry.mem_supertypesOf.mp above)))
        rw [same] at goesOn
        exact .skip (mem_qualifiedNames_of_mem (mem_adjoin.mpr (.inl early))) goesOn
      · rw [adjoin_append_of_notMem early] at goesUp
        refine .visit ?_ goesUp goesOn
        intro known
        have listed : adjoin covered visited ⊆ registry.definitions := fun other member =>
          (mem_adjoin.mp member).elim (@coveredListed other) (@visitedListed other)
        rcases mem_adjoin.mp (mem_of_mem_qualifiedNames distinct listed registered known) with
          here | here
        · exact early here
        · exact fresh (mem_qualifiedNames_of_mem here)

variable (built : registry.IsBuilt)
include built

/-- From definitions that do not lead back to the root their lineages are visited, each less what is there already. -/
theorem descends_adjoin_lineages {root : TypeDefinition} {uppers : List TypeDefinition}
    (registered : root ∈ registry.definitions) (listed : uppers ⊆ registry.definitions)
    (away : ∀ upper ∈ uppers, ¬ registry.Reaches upper root) :
    registry.Descends [root] uppers (registry.adjoinLineages [root] uppers) := by
  induction uppers using List.reverseRecOn with
  | nil => exact .done _
  | append_singleton uppers last before =>
      obtain ⟨listedBefore, listedLast⟩ := List.append_subset.mp listed
      have descends := before listedBefore fun upper member =>
        away upper (List.mem_append_left _ member)
      rw [adjoinLineages_append_singleton]
      apply descends.append
      have lastRegistered : last ∈ registry.definitions := listedLast List.mem_cons_self
      have alone := registry.descends_lineage last.type
      rw [built.definition?_typeName lastRegistered, Option.toList_some] at alone
      have closed : ∀ lower ∈ registry.adjoinLineages [root] uppers,
          ¬ registry.Reaches lower root → ∀ upper, registry.HasSupertype lower upper →
            upper ∈ registry.adjoinLineages [root] uppers := by
        intro lower member apart upper direct
        rcases mem_adjoinLineages.mp member with isRoot | ⟨first, among, above⟩
        · rw [List.mem_singleton.mp isRoot] at apart
          exact absurd .refl apart
        · rw [mem_lineage_iff built distinct] at above
          apply mem_adjoinLineages.mpr
          exact .inr ⟨first, among, (mem_lineage_iff built distinct).mpr (above.tail direct)⟩
      have rootListed : [root] ⊆ registry.definitions :=
        List.cons_subset.mpr ⟨registered, List.nil_subset _⟩
      have behind := alone.behind distinct (descends.registered rootListed listedBefore) closed
        (List.nil_subset _) listedLast fun upper member =>
          away upper (List.mem_append_right _ member)
      rwa [adjoin_nil] at behind

/-- What some of the first supertypes lead to stands right behind the type, in front of all else. -/
theorem exists_lineage_eq_of_supertypes {root : TypeDefinition}
    (registered : root ∈ registry.definitions) {before after : List TypeDefinition}
    (split : registry.supertypesOf root = before ++ after) :
    ∃ first others, registry.lineage root.type = root :: first ++ others ∧
      ∀ definition, definition ∈ root :: first ↔
        definition = root ∨ ∃ upper ∈ before, registry.Reaches upper definition := by
  have higher : registry.supertypesOf root ⊆ registry.definitions :=
    fun upper above => registered_of_mem_supertypesOf above
  have direct : ∀ upper ∈ before, registry.HasSupertype root upper := by
    intro upper member
    rw [← registry.mem_supertypesOf, split]
    exact List.mem_append_left _ member
  by_cases circular : ∃ upper ∈ before, registry.Reaches upper root
  · -- One of them leads back to the type, and from there to everything else.
    obtain ⟨back, among, leadsBack⟩ := circular
    obtain ⟨ancestors, listed⟩ := lineage_eq_cons built registered
    refine ⟨ancestors, [], by rw [listed, List.append_nil], ?_⟩
    intro definition
    rw [← listed, mem_lineage_iff_reaches built distinct registered]
    constructor
    · exact fun reaches => .inr ⟨back, among, leadsBack.trans reaches⟩
    · rintro (rfl | ⟨upper, member, reaches⟩)
      · exact .refl
      · exact reaches.head (direct upper member)
  · have away : ∀ upper ∈ before, ¬ registry.Reaches upper root := by
      simpa only [not_exists, not_and] using circular
    have descends := descends_supertypes (built.definition?_typeName registered)
    rw [split] at descends higher
    obtain ⟨middle, through, onward⟩ := descends.exists_of_append
    have listedBefore := (List.append_subset.mp higher).1
    have same := through.unique
      (descends_adjoin_lineages distinct built registered listedBefore away)
    obtain ⟨first, begins⟩ := through.isPrefix
    obtain ⟨others, listed⟩ := onward.isPrefix
    refine ⟨first, others, by rw [← listed, ← begins, List.singleton_append], ?_⟩
    intro definition
    rw [← List.singleton_append, begins, same, mem_adjoinLineages, List.mem_singleton]
    apply or_congr_right
    apply exists_congr
    intro upper
    apply and_congr_right
    intro member
    exact mem_lineage_iff_reaches built distinct (listedBefore member)

/-- Where no supertype leads back, a lineage is put together from those of the supertypes. -/
theorem lineage_eq_adjoinLineages {root : TypeDefinition}
    (registered : root ∈ registry.definitions)
    (away : ∀ upper ∈ registry.supertypesOf root, ¬ registry.Reaches upper root) :
    registry.lineage root.type = registry.adjoinLineages [root] (registry.supertypesOf root) := by
  have descends := descends_supertypes (built.definition?_typeName registered)
  apply descends.unique
  exact descends_adjoin_lineages distinct built registered
    (fun upper above => registered_of_mem_supertypesOf above) away

end DistinctNames

/-! ## Relations -/

/-- The containment relations that definitions declare towards registered types, one definition after the other. -/
def relationsOf (registry : TypeRegistry) (definitions : List TypeDefinition) :
    List ContainmentRelation :=
  definitions.flatMap registry.ownContainmentRelations

theorem containmentRelations_eq_relationsOf (type : DomainType) :
    registry.containmentRelations type = registry.relationsOf (registry.lineage type) :=
  rfl

theorem relationsOf_append (left right : List TypeDefinition) :
    registry.relationsOf (left ++ right) = registry.relationsOf left ++ registry.relationsOf right :=
  List.flatMap_append

theorem relationsOf_cons (definition : TypeDefinition) (others : List TypeDefinition) :
    registry.relationsOf (definition :: others) =
      registry.ownContainmentRelations definition ++ registry.relationsOf others :=
  List.flatMap_cons

/-- How a declared relation is listed, if it is. -/
def listing? (registry : TypeRegistry) (declared : RelationDeclaration) :
    Option ContainmentRelation :=
  if declared.containment then
    (registry.named? declared.target).map fun target =>
      ⟨declared.name, target.type, declared.many⟩
  else none

theorem listing?_eq_some_iff {declared : RelationDeclaration} {listed : ContainmentRelation} :
    registry.listing? declared = some listed ↔ registry.ListedAs declared listed := by
  rw [listing?, ListedAs]
  split
  · rename_i containment
    simp only [containment, named?, Option.map_eq_some_iff, Option.bind_eq_some_iff, true_and]
    grind
  · rename_i reference
    simp [reference]

theorem ownContainmentRelations_eq_filterMap (definition : TypeDefinition) :
    registry.ownContainmentRelations definition =
      definition.relations.filterMap registry.listing? := by
  rw [ownContainmentRelations, List.filterMap_filter]
  rfl

theorem relationsOf_eq_filterMap (definitions : List TypeDefinition) :
    registry.relationsOf definitions =
      (definitions.flatMap TypeDefinition.relations).filterMap registry.listing? := by
  rw [relationsOf, funext ownContainmentRelations_eq_filterMap, List.filterMap_flatMap]

open Classical in
/-- Of declared relations those that can be listed are listed, each once and in order. -/
theorem forall₂_listedAs (declared : List RelationDeclaration) :
    List.Forall₂ registry.ListedAs
      (declared.filter fun relation => decide (∃ listed, registry.ListedAs relation listed))
      (declared.filterMap registry.listing?) := by
  induction declared with
  | nil => exact .nil
  | cons relation others later =>
      simp only [← listing?_eq_some_iff] at later ⊢
      cases found : registry.listing? relation with
      | none => simpa [found] using later
      | some listed => simpa [found, listing?_eq_some_iff.mp found] using later

/-- The relations of the parts of a lineage that the recursion visits from the supertypes before one, from it and from those after it. -/
theorem exists_containmentRelations_eq {type : DomainType} {root : TypeDefinition}
    (found : registry.definition? type.typeName = some root)
    {before after : List TypeDefinition} {upper : TypeDefinition}
    (split : registry.supertypesOf root = before ++ upper :: after) :
    ∃ first next last,
      registry.Descends [root] before (root :: first) ∧
      registry.Descends (root :: first) [upper] (root :: first ++ next) ∧
      registry.Descends (root :: first ++ next) after (root :: first ++ next ++ last) ∧
      registry.containmentRelations type =
        registry.ownContainmentRelations root ++ registry.relationsOf first ++
          registry.relationsOf next ++ registry.relationsOf last := by
  have descends := descends_supertypes found
  rw [split, List.append_cons] at descends
  obtain ⟨_, through, onward⟩ := descends.exists_of_append
  obtain ⟨_, earlier, itself⟩ := through.exists_of_append
  obtain ⟨first, rfl⟩ := earlier.isPrefix
  obtain ⟨next, rfl⟩ := itself.isPrefix
  obtain ⟨last, listed⟩ := onward.isPrefix
  rw [← listed] at onward
  refine ⟨first, next, last, earlier, itself, onward, ?_⟩
  rw [containmentRelations_eq_relationsOf, ← listed, List.singleton_append, relationsOf_append,
    relationsOf_append, relationsOf_cons]

/-- The first supertype's relations follow the type's own, unless its lineage comes to the type's name. -/
theorem containmentRelations_isPrefix (built : registry.IsBuilt) {root upper : TypeDefinition}
    (registered : root ∈ registry.definitions) {others : List TypeDefinition}
    (split : registry.supertypesOf root = upper :: others)
    (apart : root.type.qualifiedName ∉ qualifiedNames (registry.lineage upper.type)) :
    registry.ownContainmentRelations root ++ registry.containmentRelations upper.type <+:
      registry.containmentRelations root.type := by
  have above : upper ∈ registry.supertypesOf root := by
    rw [split]
    exact List.mem_cons_self
  have descends : registry.Descends [root] ([upper] ++ others) (registry.lineage root.type) := by
    rw [List.singleton_append, ← split]
    exact descends_supertypes (built.definition?_typeName registered)
  obtain ⟨middle, through, onward⟩ := descends.exists_of_append
  have alone := registry.descends_lineage upper.type
  rw [built.definition?_typeName (registered_of_mem_supertypesOf above), Option.toList_some]
    at alone
  have apartFromRoot : ∀ definition ∈ registry.lineage upper.type,
      definition.type.qualifiedName ∉ qualifiedNames [root] := by
    intro definition member sameName
    have isRoots : definition.type.qualifiedName = root.type.qualifiedName :=
      List.mem_singleton.mp sameName
    rw [← isRoots] at apart
    exact apart (mem_qualifiedNames_of_mem member)
  have behind := alone.append_left apartFromRoot
  rw [List.append_nil, List.singleton_append] at behind
  rw [through.unique behind] at onward
  obtain ⟨last, ends⟩ := onward.isPrefix
  refine ⟨registry.relationsOf last, ?_⟩
  rw [containmentRelations_eq_relationsOf, containmentRelations_eq_relationsOf, ← ends,
    relationsOf_append, relationsOf_cons]

open Classical in
/--
The loop that makes a lineage ends with what the recursion over supertypes visits, in its
order, and no name is visited twice.  The containment relations of a type are those that
the visited definitions declare towards registered types, each once and in this order:
its own, then what the recursion visits from its first supertype, and so on.

Where the lineage of the first supertype does not come to the type's own name, its
relations follow the type's as a whole.  In a registry of distinct qualified names all that
the first supertypes lead to stands before all else, and where none of them leads back to
the type this is the lineage of the first one, then that of the second less what was
listed, and so on.
-/
theorem lineage_descends_in_order (registry : TypeRegistry) :
    (∀ type, ∃ steps,
      (SupertypeWalk.step registry)^[steps] (SupertypeWalk.start registry type) =
        ⟨registry.lineage type, []⟩) ∧
    (∀ type listed,
      registry.Descends [] (registry.definition? type.typeName).toList listed ↔
        listed = registry.lineage type) ∧
    (∀ type, (qualifiedNames (registry.lineage type)).Nodup) ∧
    (∀ type, List.Forall₂ registry.ListedAs
      (((registry.lineage type).flatMap TypeDefinition.relations).filter fun relation =>
        decide (∃ listed, registry.ListedAs relation listed))
      (registry.containmentRelations type)) ∧
    (∀ type root, registry.definition? type.typeName = some root →
      ∀ before upper after, registry.supertypesOf root = before ++ upper :: after →
        ∃ first next last,
          registry.Descends [root] before (root :: first) ∧
          registry.Descends (root :: first) [upper] (root :: first ++ next) ∧
          registry.Descends (root :: first ++ next) after (root :: first ++ next ++ last) ∧
          registry.containmentRelations type =
            registry.ownContainmentRelations root ++ registry.relationsOf first ++
              registry.relationsOf next ++ registry.relationsOf last) ∧
    (registry.IsBuilt → ∀ root ∈ registry.definitions,
      ∀ upper others, registry.supertypesOf root = upper :: others →
        root.type.qualifiedName ∉ qualifiedNames (registry.lineage upper.type) →
          registry.ownContainmentRelations root ++ registry.containmentRelations upper.type <+:
            registry.containmentRelations root.type) ∧
    (registry.IsBuilt → registry.HasDistinctNames → ∀ root ∈ registry.definitions,
      (∀ before after, registry.supertypesOf root = before ++ after →
        ∃ first others,
          registry.containmentRelations root.type =
            registry.ownContainmentRelations root ++ registry.relationsOf first ++
              registry.relationsOf others ∧
          registry.lineage root.type = root :: first ++ others ∧
          ∀ definition, definition ∈ root :: first ↔
            definition = root ∨ ∃ upper ∈ before, registry.Reaches upper definition) ∧
      ((∀ upper ∈ registry.supertypesOf root, ¬ registry.Reaches upper root) →
        registry.lineage root.type =
          registry.adjoinLineages [root] (registry.supertypesOf root))) := by
  refine ⟨?_, ?_, ?_, ?_, ?_, ?_, ?_⟩
  · intro type
    have ends := (registry.descends_lineage type).exists_iterate_step []
    rwa [List.append_nil] at ends
  · exact fun type listed => descends_iff_eq_lineage
  · exact fun type => (registry.descends_lineage type).nodup_qualifiedNames List.nodup_nil
  · intro type
    rw [containmentRelations_eq_relationsOf, relationsOf_eq_filterMap]
    exact forall₂_listedAs _
  · exact fun type root found before upper after => exists_containmentRelations_eq found
  · intro built root registered upper others
    exact containmentRelations_isPrefix built registered
  · intro built distinct root registered
    refine ⟨?_, ?_⟩
    · intro before after split
      obtain ⟨first, others, listed, members⟩ :=
        exists_lineage_eq_of_supertypes distinct built registered split
      refine ⟨first, others, ?_, listed, members⟩
      rw [containmentRelations_eq_relationsOf, listed, relationsOf_append, relationsOf_cons]
    · exact lineage_eq_adjoinLineages distinct built registered

/-- A person is its own supertype, and lives at an address of which no type is registered. -/
def schoolPerson : TypeDefinition where
  type := { typeName := ⟨"school", "Person"⟩, isAbstract := true }
  supertypes := ["school::Person"]
  relations :=
    [⟨"address", "school::Address", true, false⟩, ⟨"children", "school.Person", true, true⟩,
      ⟨"friends", "school::Person", false, true⟩]

def schoolStaff : TypeDefinition where
  type := { typeName := ⟨"school", "Staff"⟩, isAbstract := true }
  supertypes := ["school::Person"]
  relations := [⟨"deputy", "school::Staff", true, false⟩]

def schoolStudent : TypeDefinition where
  type := { typeName := ⟨"school", "Student"⟩ }
  supertypes := ["school.Person"]
  relations := [⟨"tutor", "school::Staff", true, false⟩]

/-- A tutor is a person in two ways. -/
def schoolTutor : TypeDefinition where
  type := { typeName := ⟨"school", "Tutor"⟩ }
  supertypes := ["school::Staff", "school::Ghost", "school::Student"]
  relations := [⟨"group", "school::Student", true, true⟩]

def school : TypeRegistry :=
  (((empty.add schoolPerson).add schoolStaff).add schoolStudent).add schoolTutor

theorem isBuilt_school : school.IsBuilt := by
  have first : (empty.add schoolPerson).IsBuilt :=
    .register .empty (register_eq_ok_iff.mpr ⟨by decide, rfl⟩)
  have second : ((empty.add schoolPerson).add schoolStaff).IsBuilt :=
    .register first (register_eq_ok_iff.mpr ⟨by decide, rfl⟩)
  have third : (((empty.add schoolPerson).add schoolStaff).add schoolStudent).IsBuilt :=
    .register second (register_eq_ok_iff.mpr ⟨by decide, rfl⟩)
  exact .register third (register_eq_ok_iff.mpr ⟨by decide, rfl⟩)

/-- Staff comes before the tutor's other supertype with the person above it, and the person's address is left out. -/
theorem lineage_descends_from_tutor :
    school.IsBuilt ∧ school.HasDistinctNames ∧ schoolTutor ∈ school.definitions ∧
      school.definition? schoolTutor.type.typeName = some schoolTutor ∧
      school.supertypesOf schoolTutor = [] ++ schoolStaff :: [schoolStudent] ∧
      (∀ upper ∈ school.supertypesOf schoolTutor, ¬ school.Reaches upper schoolTutor) ∧
      school.lineage schoolTutor.type = [schoolTutor, schoolStaff, schoolPerson, schoolStudent] ∧
      (∃ first next last,
        school.Descends [schoolTutor] [] (schoolTutor :: first) ∧
        school.Descends (schoolTutor :: first) [schoolStaff] (schoolTutor :: first ++ next) ∧
        school.Descends (schoolTutor :: first ++ next) [schoolStudent]
          (schoolTutor :: first ++ next ++ last)) ∧
      [⟨"group", schoolStudent.type, true⟩, ⟨"deputy", schoolStaff.type, false⟩,
        ⟨"children", schoolPerson.type, true⟩] <+:
          school.containmentRelations schoolTutor.type := by
  have built := isBuilt_school
  have distinct : school.HasDistinctNames := by
    rw [HasDistinctNames]
    decide
  have registered : schoolTutor ∈ school.definitions := List.mem_append_right _ List.mem_cons_self
  have found := built.definition?_typeName registered
  have ofTutor : school.supertypesOf schoolTutor = [schoolStaff, schoolStudent] := by cbv
  have ofStaff : school.lineage schoolStaff.type = [schoolStaff, schoolPerson] := by cbv
  have ofStudent : school.lineage schoolStudent.type = [schoolStudent, schoolPerson] := by cbv
  obtain ⟨_, _, _, _, parts, begins, ofSupertypes⟩ := lineage_descends_in_order school
  obtain ⟨_, together⟩ := ofSupertypes built distinct schoolTutor registered
  have away : ∀ upper ∈ school.supertypesOf schoolTutor, ¬ school.Reaches upper schoolTutor := by
    intro upper above
    have listed := registered_of_mem_supertypesOf above
    rw [← mem_lineage_iff_reaches built distinct listed]
    rw [ofTutor] at above
    simp only [List.mem_cons, List.not_mem_nil, or_false] at above
    rcases above with rfl | rfl
    · rw [ofStaff]
      decide
    · rw [ofStudent]
      decide
  refine ⟨built, distinct, registered, found, ofTutor, away, ?_, ?_, ?_⟩
  · rw [together away, ofTutor, adjoinLineages, List.foldl_cons, List.foldl_cons, ofStaff,
      ofStudent]
    decide
  · obtain ⟨first, next, last, earlier, itself, later, _⟩ :=
      parts schoolTutor.type schoolTutor found [] schoolStaff [schoolStudent] ofTutor
    exact ⟨first, next, last, earlier, itself, later⟩
  · have apart : schoolTutor.type.qualifiedName ∉
        qualifiedNames (school.lineage schoolStaff.type) := by
      rw [ofStaff]
      decide
    have staffFirst := begins built schoolTutor registered schoolStaff [schoolStudent] ofTutor apart
    have own : school.ownContainmentRelations schoolTutor =
        [⟨"group", schoolStudent.type, true⟩] := by cbv
    have ofStaffToo : school.containmentRelations schoolStaff.type =
        [⟨"deputy", schoolStaff.type, false⟩, ⟨"children", schoolPerson.type, true⟩] := by cbv
    rwa [own, ofStaffToo] at staffFirst

end TypeRegistry

end FormWidgets
