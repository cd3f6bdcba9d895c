import TypeFamily.TypeDecl

/-!
What can go wrong with a family of types, each cause with what it is about. A message names the
source of an earlier registration wherever that source is known.
-/

namespace TypeFamily

/-- Where a type gets its default implementation: the type that registered it, and the
implementation type. -/
structure Resolution where
  owner : TypeName
  implementation : TypeName
deriving DecidableEq, Inhabited, Repr

namespace Resolution

/-- A resolution in words. -/
def phrase (r : Resolution) : String :=
  "'" ++ r.owner.text ++ "' implemented by '" ++ r.implementation.text ++ "'"

/-- The inspection text of a resolution. -/
def inspect (r : Resolution) : String :=
  Text.Inspect.record "ImplementationInfo"
    [("owner", r.owner.inspect), ("implementation", r.implementation.inspect)]

end Resolution

/-- What a type can have only one registration of. -/
inductive RegistrationKind where
  | factory
  | implementation
deriving DecidableEq, Repr

namespace RegistrationKind

/-- The kind in words. -/
def phrase : RegistrationKind → String
  | factory => "a factory"
  | implementation => "an implementation type"

/-- The inspection text of a kind. -/
def inspect : RegistrationKind → String
  | factory => "Factory"
  | implementation => "Implementation"

end RegistrationKind

/-- Why a type cannot serve as an implementation. -/
inductive Defect where
  | notAssignable (root : TypeName)
  | notSubtype (of : TypeName)
  | abstract
  | noDefaultConstructor
deriving DecidableEq, Repr

namespace Defect

/-- What the implementation type would have to be. -/
def phrase : Defect → String
  | notAssignable root => "must extend '" ++ root.text ++ "'"
  | notSubtype of => "must be a subtype of '" ++ of.text ++ "'"
  | abstract => "must not be abstract"
  | noDefaultConstructor => "must have a zero-argument constructor"

/-- The inspection text of a defect. -/
def inspect : Defect → String
  | notAssignable root => Text.Inspect.record "NotAssignable" [("root", root.inspect)]
  | notSubtype of => Text.Inspect.record "NotSubtype" [("of", of.inspect)]
  | abstract => "Abstract"
  | noDefaultConstructor => "NoDefaultConstructor"

end Defect

/-- The ways in which declaring, registering, resolving, validating and creating fail. -/
inductive RegistryError where
  /-- `type` has a registration of this kind already, made by `previous`. -/
  | duplicateRegistration (kind : RegistrationKind) (type : TypeName) (previous : Option Source)
  /-- `implementation` cannot be the implementation of `type`. -/
  | invalidImplementation (implementation type : TypeName) (reason : Defect)
  /-- `type` is public but does not extend the root of the family. -/
  | notInFamily (type root : TypeName)
  /-- `type` is declared differently already. -/
  | conflictingDeclaration (type : TypeName) (existing incoming : TypeDecl)
  /-- `type` names `supertype`, which extends `type`. -/
  | cyclicHierarchy (type supertype : TypeName)
  /-- Neither `type` nor any of its ancestors in the family has an implementation. -/
  | noDefaultImplementation (type : TypeName)
  /-- Several ancestors of `type` have one. -/
  | ambiguousImplementation (type : TypeName) (candidates : List Resolution)
  /-- The implementation of `type` does not extend a view that is attached to it. -/
  | incompatibleInternalView (type implementation view : TypeName)
      (implementationSource viewSource : Option Source)
  /-- `type` inherits its implementation from `owner` without being managed. -/
  | unmanagedExtension (type owner : TypeName)
  /-- `type` has no factory; `known` lists those that have one. -/
  | unknownType (type : TypeName) (family : String) (known : List String)
deriving DecidableEq, Repr

namespace RegistryError

/-- The type that an error is about. -/
def type : RegistryError → TypeName
  | duplicateRegistration _ t _ => t
  | invalidImplementation _ t _ => t
  | notInFamily t _ => t
  | conflictingDeclaration t _ _ => t
  | cyclicHierarchy t _ => t
  | noDefaultImplementation t => t
  | ambiguousImplementation t _ => t
  | incompatibleInternalView t _ _ _ _ => t
  | unmanagedExtension t _ => t
  | unknownType t _ _ => t

/-- Introduces a source that is known; one that is not is passed over. -/
def attribution (lead : String) : Option Source → String
  | some source => lead ++ source.text
  | none => ""

/-- A list of names for a message, "(None)" when there are none. -/
def nameList (names : List String) : String :=
  if names.isEmpty then "(None)" else ", ".intercalate names

/-- The opening of the messages about a public type that does not validate. -/
def invalidBecause (type : TypeName) : String :=
  "Factory registration for '" ++ type.text ++ "' is invalid because "

/-- The error in words. -/
def message : RegistryError → String
  | duplicateRegistration kind type previous =>
      "Cannot register " ++ kind.phrase ++ " for type '" ++ type.text ++ "' because " ++
        kind.phrase ++ " for this type was already registered" ++ attribution " by " previous
  | invalidImplementation implementation type reason =>
      "Implementation type '" ++ implementation.text ++ "' registered for '" ++ type.text ++ "' " ++
        reason.phrase
  | notInFamily type root =>
      "Type '" ++ type.text ++
        "' cannot be registered as a public type because it is not assignable to '" ++
        root.text ++ "'"
  | conflictingDeclaration type existing incoming =>
      "Type '" ++ type.text ++ "' is already declared as `" ++ existing.phrase ++
        "`, cannot redeclare it as `" ++ incoming.phrase ++ "`"
  | cyclicHierarchy type supertype =>
      "Type '" ++ type.text ++ "' cannot extend '" ++ supertype.text ++ "' because '" ++
        supertype.text ++ "' already extends '" ++ type.text ++ "'"
  | noDefaultImplementation type =>
      invalidBecause type ++ "it doesn't extend an interface with a default implementation"
  | ambiguousImplementation type candidates =>
      invalidBecause type ++ "it has multiple default implementations registered, " ++
        "super-types that registered an implementation are: " ++
        ", ".intercalate (candidates.map (·.phrase))
  | incompatibleInternalView type implementation view implementationSource viewSource =>
      invalidBecause type ++ "the implementation type '" ++ implementation.text ++
        "' does not extend internal view '" ++ view.text ++ "'" ++
        attribution ", implementation type was registered by " implementationSource ++
        attribution ", internal view was registered by " viewSource
  | unmanagedExtension type owner =>
      invalidBecause type ++ "only managed types can extend unmanaged type '" ++ owner.text ++ "'"
  | unknownType type family known =>
      "Cannot create a " ++ type.simple ++ " because this type is not known to " ++ family ++
        ". Known types are: " ++ nameList known

/-- The name of the kind of error. -/
def kind : RegistryError → String
  | duplicateRegistration .. => "DuplicateRegistration"
  | invalidImplementation .. => "InvalidImplementation"
  | notInFamily .. => "NotInFamily"
  | conflictingDeclaration .. => "ConflictingDeclaration"
  | cyclicHierarchy .. => "CyclicHierarchy"
  | noDefaultImplementation .. => "NoDefaultImplementation"
  | ambiguousImplementation .. => "AmbiguousImplementation"
  | incompatibleInternalView .. => "IncompatibleInternalView"
  | unmanagedExtension .. => "UnmanagedExtension"
  | unknownType .. => "UnknownType"

/-- The inspection text of a source that may be unknown. -/
def inspectSource (source : Option Source) : String :=
  Text.Inspect.optional (source.map (·.inspect))

/-- The parts of an error with their inspection texts. -/
def parts : RegistryError → List (String × String)
  | duplicateRegistration kind type previous =>
      [("kind", kind.inspect), ("type_name", type.inspect), ("previous", inspectSource previous)]
  | invalidImplementation implementation type reason =>
      [("implementation", implementation.inspect), ("type_name", type.inspect),
        ("reason", reason.inspect)]
  | notInFamily type root => [("type_name", type.inspect), ("root", root.inspect)]
  | conflictingDeclaration type existing incoming =>
      [("type_name", type.inspect), ("existing", existing.inspect), ("incoming", incoming.inspect)]
  | cyclicHierarchy type supertype =>
      [("type_name", type.inspect), ("supertype", supertype.inspect)]
  | noDefaultImplementation type => [("type_name", type.inspect)]
  | ambiguousImplementation type candidates =>
      [("type_name", type.inspect),
        ("candidates", Text.Inspect.list (candidates.map (·.inspect)))]
  | incompatibleInternalView type implementation view implementationSource viewSource =>
      [("type_name", type.inspect), ("implementation", implementation.inspect),
        ("view", view.inspect), ("implementation_source", inspectSource implementationSource),
        ("view_source", inspectSource viewSource)]
  | unmanagedExtension type owner => [("type_name", type.inspect), ("owner", owner.inspect)]
  | unknownType type family known =>
      [("type_name", type.inspect), ("family", Text.Inspect.quoted family),
        ("known", Text.Inspect.list (known.map Text.Inspect.quoted))]

/-- The inspection text of an error. -/
def inspect (e : RegistryError) : String :=
  Text.Inspect.record e.kind e.parts

end RegistryError

end TypeFamily
