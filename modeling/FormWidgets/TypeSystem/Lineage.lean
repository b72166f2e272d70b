import FormWidgets.TypeSystem.Registry
import FormWidgets.Value

/-!
# Lineage of types

A type and its ancestors along declared supertypes.  The declarations may run
in circles, meet again or name nothing; the walk visits each qualified name
once, a type before its supertypes and these in declared order, each with its
whole lineage before the next.

Assignability, subtypes and the relations that a type inherits are read off the
lineage.
-/

namespace FormWidgets

/-- A containment relation with its target resolved. -/
structure ContainmentRelation where
  name : String
  target : DomainType
  many : Bool
deriving DecidableEq, Repr

namespace TypeRegistry

/-- The registered direct supertypes of a definition, in declared order. -/
def supertypesOf (registry : TypeRegistry) (definition : TypeDefinition) :
    List TypeDefinition :=
  definition.supertypes.filterMap registry.named?

/-- Whether a definition has a given qualified name. -/
def isNamed (qualifiedName : String) (definition : TypeDefinition) : Bool :=
  decide (definition.type.qualifiedName = qualifiedName)

/-- The definitions without those of a given qualified name. -/
def dropNamed (qualifiedName : String) (definitions : List TypeDefinition) :
    List TypeDefinition :=
  definitions.filter fun definition => !isNamed qualifiedName definition

/-- Dropping the definitions with the name of one of them makes a list shorter. -/
theorem length_dropNamed_lt {definitions : List TypeDefinition} {qualifiedName : String}
    (listed : definitions.any (isNamed qualifiedName) = true) :
    (dropNamed qualifiedName definitions).length < definitions.length := by
  obtain ⟨definition, member, named⟩ := List.any_eq_true.mp listed
  exact List.length_filter_lt_length_iff_exists.mpr ⟨definition, member, by simp [named]⟩

/-- Visit pending definitions first to last, skipping the names that are no longer unvisited. -/
def walk (registry : TypeRegistry) (unvisited pending : List TypeDefinition) :
    List TypeDefinition :=
  match pending with
  | [] => []
  | definition :: rest =>
      if _listed : unvisited.any (isNamed definition.type.qualifiedName) = true then
        definition ::
          walk registry (dropNamed definition.type.qualifiedName unvisited)
            (registry.supertypesOf definition ++ rest)
      else
        walk registry unvisited rest
termination_by (unvisited.length, pending.length)
decreasing_by
  · exact Prod.Lex.left _ _ (length_dropNamed_lt _listed)
  · exact Prod.Lex.right _ (by simp)

/-- A registered type followed by its ancestors; nothing for a name that is not registered. -/
def lineage (registry : TypeRegistry) (type : DomainType) : List TypeDefinition :=
  walk registry registry.definitions (registry.definition? type.typeName).toList

/-- Whether instances of a candidate may stand where a target is declared. -/
def isAssignable (registry : TypeRegistry) (target candidate : DomainType) : Bool :=
  (registry.lineage candidate).any fun definition => decide (definition.type = target)

/-- The registered types that may stand for a type, in order of registration, within a namespace when one is given. -/
def subtypes (registry : TypeRegistry) (type : DomainType) (space : Option String) :
    List DomainType :=
  (registry.definitions.map TypeDefinition.type).filter fun candidate =>
    space.all (fun space => decide (candidate.typeName.space = space))
      && registry.isAssignable type candidate

/-- The containment relations that a definition declares towards registered types. -/
def ownContainmentRelations (registry : TypeRegistry) (definition : TypeDefinition) :
    List ContainmentRelation :=
  (definition.relations.filter RelationDeclaration.containment).filterMap fun relation =>
    (registry.named? relation.target).map fun target =>
      ⟨relation.name, target.type, relation.many⟩

/-- The containment relations of a type and its ancestors, in the order of the lineage. -/
def containmentRelations (registry : TypeRegistry) (type : DomainType) :
    List ContainmentRelation :=
  (registry.lineage type).flatMap registry.ownContainmentRelations

/-- A detached instance of a registered type, used to look up its presentation. -/
def transientInstance? (registry : TypeRegistry) (type : DomainType) : Option Node :=
  (registry.definition? type.typeName).map fun definition =>
    ⟨"transient:" ++ definition.type.qualifiedName⟩

end TypeRegistry

end FormWidgets
