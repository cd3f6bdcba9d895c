import TypeFamily.Manifest.Basic

/-!
What makes a manifest consistent in itself. Names must not be blank, a type is declared once, and
every implementation is one of the declared types. What the registrations mean to each other is for
the registry to judge.
-/

namespace TypeFamily.Manifest

/-- What can be wrong with a manifest. -/
inductive Flaw where
  | emptyRoot
  | emptyTypeName
  | repeatedType (name : String)
  | emptySupertype (name : String)
  | emptyName (key : String)
  | undeclaredImplementation (implementation type : String)
deriving DecidableEq, Repr

/-- The flaw in words. -/
def Flaw.phrase : Flaw → String
  | emptyRoot => "family.root must name the root interface"
  | emptyTypeName => "type names cannot be empty"
  | repeatedType name => "type '" ++ name ++ "' is declared more than once"
  | emptySupertype name => "type '" ++ name ++ "' extends an empty type name"
  | emptyName key => key ++ " cannot be empty"
  | undeclaredImplementation implementation type =>
      "implementation '" ++ implementation ++ "' for '" ++ type ++
        "' is not declared in [[types]]"

/-- The flaw of a name that is blank. -/
def blank? (key name : String) : Option Flaw :=
  if Text.isBlankText name then some (.emptyName key) else none

/-- The first flaw of types that follow those named in `declared`. -/
def typesFlaw? (declared : List String) : List TypeItem → Option Flaw
  | [] => none
  | t :: ts =>
    if Text.isBlankText t.name then some .emptyTypeName
    else if Text.trim t.name ∈ declared then some (.repeatedType t.name)
    else if t.supertypes.any Text.isBlankText then some (.emptySupertype t.name)
    else typesFlaw? (Text.trim t.name :: declared) ts

/-- The flaw of one implementation. -/
def implementationFlaw? (m : Manifest) (i : ImplementationItem) : Option Flaw :=
  (blank? "implementations.type" i.type).or <|
  (blank? "implementations.implementation" i.implementation).or <|
  if (m.typeItem? i.implementation).isSome then none
  else some (.undeclaredImplementation i.implementation i.type)

/-- The flaw of one view. -/
def viewFlaw? (v : ViewItem) : Option Flaw :=
  (blank? "views.type" v.type).or (blank? "views.view" v.view)

/-- The flaw of one factory. -/
def factoryFlaw? (f : FactoryItem) : Option Flaw :=
  blank? "factories.type" f.type

/-- The first flaw of a manifest, in the order of its parts. -/
def flaw? (m : Manifest) : Option Flaw :=
  (if Text.isBlankText m.family.root then some .emptyRoot else none).or <|
  (typesFlaw? [] m.types).or <|
  (m.implementations.findSome? m.implementationFlaw?).or <|
  (m.views.findSome? viewFlaw?).or <|
  m.factories.findSome? factoryFlaw?

/-- Accepts a manifest that is without flaw. -/
def validate (m : Manifest) : Except Flaw Unit :=
  match m.flaw? with
  | some flaw => .error flaw
  | none => .ok ()

end TypeFamily.Manifest
