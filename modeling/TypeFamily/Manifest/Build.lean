import TypeFamily.Manifest.Load
import TypeFamily.Registry.Log

/-!
The registry that a manifest describes. All types are declared before any is made public, so that
the order of a manifest never decides what extends what; factories come last, each with the
implementation that its type resolves to. There is nothing behind the types of a manifest, so an
instance only records what was asked for.
-/

namespace TypeFamily

/-- An instance of a type that is only described. -/
structure DeclaredInstance where
  type : TypeName
  name : String
  path : String
  implementation : Option TypeName := none
deriving DecidableEq, Inhabited, Repr

/-- Where instances are created: the path of the node they go under, and the paths of those created
so far. -/
structure CreationContext where
  parent : String := ""
  created : List String := []
deriving DecidableEq, Inhabited, Repr

namespace CreationContext

/-- The path of an instance of a given name. -/
def childPath (c : CreationContext) (name : String) : String :=
  if c.parent.isEmpty then name else c.parent ++ "." ++ name

/-- The context once an instance is created at a path. -/
def record (c : CreationContext) (path : String) : CreationContext :=
  { c with created := c.created ++ [path] }

end CreationContext

/-- The registry of a family that is only described. -/
abbrev ManifestRegistry : Type :=
  Registry DeclaredInstance CreationContext

/-- Why a manifest does not lead to a registry. -/
inductive LoadError where
  | manifest (e : ManifestError)
  | registry (e : RegistryError)
deriving DecidableEq, Repr

/-- The inspection text of an error. -/
def LoadError.inspect : LoadError → String
  | manifest e => Text.Inspect.wrapped "Config" e.inspect
  | registry e => Text.Inspect.wrapped "Registry" e.inspect

namespace DeclaredInstance

/-- The instance that the constructor of an implementation type makes. -/
def ofConstructor (t : TypeName) : DeclaredInstance :=
  { type := t, name := "", path := "", implementation := some t }

/-- The factory of a type whose default implementation is known or missing. -/
def factory (t : TypeName) (implementation : Option TypeName) :
    Factory DeclaredInstance CreationContext :=
  fun name context =>
    let path := context.childPath name
    ({ type := t, name, path, implementation }, context.record path)

end DeclaredInstance

namespace Manifest

/-- A registration on the registry of a manifest. -/
abbrev Call : Type :=
  Registry.Call DeclaredInstance CreationContext

/-- The implementation that a declared type offers. -/
def TypeItem.implementation (t : TypeItem) : Implementation DeclaredInstance where
  decl := t.toDecl
  construct? := if t.constructible then some (.ofConstructor (.ofString t.name)) else none

/-- The source of a registration, in the words of the manifest. -/
def sourceOf (source : Option String) : Option Source :=
  source.map Source.mk

/-- The declarations of all types. -/
def declareCalls (m : Manifest) : List Call :=
  m.types.map fun t => .declareType t.toDecl

/-- The registrations of the public types. -/
def publicCalls (m : Manifest) : List Call :=
  (m.types.filter (·.isPublic)).map fun t => .registerPublicType t.toDecl

/-- The registrations of the implementations; one whose type is not declared is passed over. -/
def implementationCalls (m : Manifest) : List Call :=
  m.implementations.filterMap fun i =>
    (m.typeItem? i.implementation).map fun t =>
      .registerImplementation (.ofString i.type) (sourceOf i.source) t.implementation

/-- The attachments of the views. -/
def viewCalls (m : Manifest) : List Call :=
  m.views.map fun v =>
    .registerInternalView (.ofString v.type) (sourceOf v.source) (.ofString v.view)

/-- Everything that comes before the factories. -/
def setupCalls (m : Manifest) : List Call :=
  m.declareCalls ++ m.publicCalls ++ m.implementationCalls ++ m.viewCalls

/-- The registration of a factory whose type resolves as it does in `r`. -/
def FactoryItem.call (r : ManifestRegistry) (f : FactoryItem) : Call :=
  let t := TypeName.ofString f.type
  let implementation := (r.resolve t).toOption.map (·.implementation)
  .registerFactory t (sourceOf f.source) (DeclaredInstance.factory t implementation)

/-- The registry before anything is registered. -/
def emptyRegistry (m : Manifest) : ManifestRegistry :=
  .empty m.family.displayName (.ofString m.family.root)

/-- Registers everything that a manifest holds, or stops at the first registration that is
refused. -/
def build (m : Manifest) : Except RegistryError ManifestRegistry := do
  let r ← m.emptyRegistry.applyAll m.setupCalls
  r.applyAll (m.factories.map (·.call r))

/-- The entries of registering factories, each after resolving its type. -/
def factoriesLog (r : ManifestRegistry) : List FactoryItem → List LogEntry
  | [] => []
  | f :: fs =>
    r.resolveLog (.ofString f.type) ++ r.callLog (f.call r) ++
      if r.accepts (f.call r) then factoriesLog (r.step (f.call r)) fs else []

/-- The entries of building a registry. -/
def buildLog (m : Manifest) : List LogEntry :=
  m.emptyRegistry.callsLog m.setupCalls ++
  (match m.emptyRegistry.applyAll m.setupCalls with
    | .ok r => factoriesLog r m.factories
    | .error _ => []) ++
  match m.build with
  | .ok r =>
    [⟨.loading, .info, "Built registry from manifest",
      [("family", r.displayName), ("public_types", toString r.publicTypes.length)]⟩]
  | .error _ => []

end Manifest

end TypeFamily
