import FormWidgets.EngineError
import FormWidgets.NameMap
import FormWidgets.TypeSystem.TypeName

/-!
# Type registry

The types of the domain in order of registration, with an index from names to
positions in that order.  A name is registered at most once: a second
registration is refused and leaves the registry as it was.
-/

namespace FormWidgets

/-- A type of the domain. -/
structure DomainType where
  typeName : TypeName
  isAbstract : Bool := false
  isInterface : Bool := false
deriving DecidableEq, Repr

namespace DomainType

/-- The text that names a type. -/
def qualifiedName (type : DomainType) : String :=
  type.typeName.text

/-- Whether a type can have instances of its own. -/
def isInstantiable (type : DomainType) : Bool :=
  !type.isAbstract && !type.isInterface

end DomainType

/-- A relation that a type declares towards a type named by a text. -/
structure RelationDeclaration where
  name : String
  target : String
  containment : Bool
  many : Bool
deriving DecidableEq, Repr

/-- A type with its direct supertypes, named by texts, and its own relations. -/
structure TypeDefinition where
  type : DomainType
  supertypes : List String := []
  relations : List RelationDeclaration := []
deriving DecidableEq, Repr

/-- The registered types in order, and the position of each by namespace and name. -/
structure TypeRegistry where
  definitions : List TypeDefinition
  positions : NameMap (NameMap Nat)

namespace TypeRegistry

/-- The registry without types. -/
def empty : TypeRegistry where
  definitions := []
  positions := NameMap.empty

/-- The number of registered types. -/
def size (registry : TypeRegistry) : Nat :=
  registry.definitions.length

/-- The position of the type with a name. -/
def position? (registry : TypeRegistry) (typeName : TypeName) : Option Nat :=
  (registry.positions.find? typeName.space).bind fun names => names.find? typeName.name

/-- The definition registered under a name. -/
def definition? (registry : TypeRegistry) (typeName : TypeName) :
    Option TypeDefinition :=
  (registry.position? typeName).bind fun position => registry.definitions[position]?

/-- The definition that a text names. -/
def named? (registry : TypeRegistry) (text : String) : Option TypeDefinition :=
  (TypeName.parse? text).bind registry.definition?

/-- The type registered under a name. -/
def find? (registry : TypeRegistry) (typeName : TypeName) : Option DomainType :=
  (registry.definition? typeName).map TypeDefinition.type

/-- The type that a text names, or the error that it names none. -/
def resolve (registry : TypeRegistry) (text : String) : Except EngineError DomainType :=
  match (TypeName.parse? text).bind registry.find? with
  | some type => .ok type
  | none => .error (.unresolvedType text)

/-- The registry with one more type at the end. -/
def add (registry : TypeRegistry) (definition : TypeDefinition) : TypeRegistry where
  definitions := registry.definitions ++ [definition]
  positions :=
    let typeName := definition.type.typeName
    let names := (registry.positions.find? typeName.space).getD NameMap.empty
    registry.positions.put typeName.space (names.put typeName.name registry.size)

/-- Register a type unless its name is registered already. -/
def register (registry : TypeRegistry) (definition : TypeDefinition) :
    Except EngineError TypeRegistry :=
  match registry.position? definition.type.typeName with
  | some _ =>
      .error (.invalidElement definition.type.qualifiedName "type registered twice")
  | none => .ok (registry.add definition)

/-- Register types in order, up to the first that is refused. -/
def registerAll (registry : TypeRegistry) :
    List TypeDefinition → Except EngineError TypeRegistry
  | [] => .ok registry
  | definition :: rest => do
      let next ← registry.register definition
      next.registerAll rest

/-- The registry of a list of types. -/
def ofList (definitions : List TypeDefinition) : Except EngineError TypeRegistry :=
  empty.registerAll definitions

end TypeRegistry

end FormWidgets
