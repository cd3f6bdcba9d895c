import TypeFamily.TypeGraph

/-!
The registry of one family of types: the declared hierarchy under a root interface, the public
types, and what contributors registered for them. Each registration either extends the registry or
is refused with a reason; a refused one leaves nothing behind.
-/

namespace TypeFamily

/-- Makes an instance from its name, and says what becomes of the context it is made in. -/
abbrev Factory (α γ : Type) : Type :=
  String → γ → α × γ

/-- An implementation type on offer, with the instance that its zero-argument constructor makes if
it has such a constructor. -/
structure Implementation (α : Type) where
  decl : TypeDecl
  construct? : Option α := none

namespace Implementation

variable {α : Type}

def hasConstructor (i : Implementation α) : Bool :=
  i.construct?.isSome

/-- The inspection text of an implementation. -/
def inspect (i : Implementation α) : String :=
  Text.Inspect.record "Implementation"
    [("decl", i.decl.inspect), ("constructor", toString i.hasConstructor)]

end Implementation

/-- A factory registered for a type. -/
structure FactoryEntry (α γ : Type) where
  type : TypeName
  source : Option Source
  make : Factory α γ

/-- An implementation registered for a type. -/
structure ImplementationEntry (α : Type) where
  type : TypeName
  source : Option Source
  implementation : Implementation α

namespace ImplementationEntry

/-- The name of the implementation type. -/
def name {α : Type} (e : ImplementationEntry α) : TypeName :=
  e.implementation.decl.name

/-- What the type of the entry, and a type that inherits from it, resolves to. -/
def resolution {α : Type} (e : ImplementationEntry α) : Resolution :=
  ⟨e.type, e.name⟩

end ImplementationEntry

/-- A view attached to a type. -/
structure ViewEntry where
  type : TypeName
  source : Option Source
  view : TypeName
deriving DecidableEq, Repr

/-- The registry of a family whose instances are of type `α` and are made in contexts of type `γ`.
Entries stand in the order in which they were registered. -/
structure Registry (α γ : Type) where
  displayName : String
  root : TypeName
  graph : TypeGraph
  publicTypes : List TypeName := []
  factories : List (FactoryEntry α γ) := []
  implementations : List (ImplementationEntry α) := []
  views : List ViewEntry := []

namespace Registry

variable {α γ : Type}

/-- A registry in which only the root interface is declared. -/
def empty (displayName : String) (root : TypeName) : Registry α γ :=
  { displayName, root, graph := .rooted root }

/-- The factory registered for exactly this type. -/
def factory? (r : Registry α γ) (t : TypeName) : Option (FactoryEntry α γ) :=
  r.factories.find? (·.type = t)

/-- The implementation registered for exactly this type. -/
def implementation? (r : Registry α γ) (t : TypeName) : Option (ImplementationEntry α) :=
  r.implementations.find? (·.type = t)

/-- The views attached to exactly this type, repeats included, earliest first. -/
def viewEntries (r : Registry α γ) (t : TypeName) : List ViewEntry :=
  r.views.filter (·.type = t)

/-- The distinct views attached to exactly this type, in the order of their first attachment. -/
def internalViews (r : Registry α γ) (t : TypeName) : List TypeName :=
  ((r.viewEntries t).map (·.view)).foldl (fun vs v => if v ∈ vs then vs else vs ++ [v]) []

def hasFactory (r : Registry α γ) (t : TypeName) : Bool :=
  (r.factory? t).isSome

def hasImplementation (r : Registry α γ) (t : TypeName) : Bool :=
  (r.implementation? t).isSome

/-- Whether a public type is spelled exactly so. -/
def supports (r : Registry α γ) (spelling : String) : Bool :=
  r.publicTypes.any (·.text = spelling)

/-- Declares a type without making it public. -/
def declareType (r : Registry α γ) (d : TypeDecl) : Except RegistryError (Registry α γ) := do
  let graph ← r.graph.declare d
  return { r with graph }

/-- Declares a type and makes it public. Contributors come in any order, so a type with ancestors
still undeclared is let in, and validation asks again; only one whose ancestry is known and misses
the root is refused. -/
def registerPublicType (r : Registry α γ) (d : TypeDecl) :
    Except RegistryError (Registry α γ) := do
  if r.graph.reaches d r.root = .doesNotReach then
    throw (.notInFamily d.name r.root)
  let graph ← r.graph.declare d
  let publicTypes :=
    if d.name ∈ r.publicTypes then r.publicTypes else r.publicTypes ++ [d.name]
  return { r with graph, publicTypes }

/-- Registers the factory of exactly this type. -/
def registerFactory (r : Registry α γ) (t : TypeName) (source : Option Source)
    (make : Factory α γ) : Except RegistryError (Registry α γ) :=
  match r.factory? t with
  | some existing => .error (.duplicateRegistration .factory t existing.source)
  | none => .ok { r with factories := r.factories ++ [⟨t, source, make⟩] }

/-- What is known to be wrong with an implementation for a type. Ancestry that is still open is
given the benefit of the doubt. -/
def defect? (r : Registry α γ) (t : TypeName) (i : Implementation α) : Option Defect :=
  if r.graph.reaches i.decl r.root = .doesNotReach then some (.notAssignable r.root)
  else if r.graph.reaches i.decl t = .doesNotReach then some (.notSubtype t)
  else if !i.decl.isConcrete then some .abstract
  else if !i.hasConstructor then some .noDefaultConstructor
  else none

/-- Declares an implementation and registers it as the default one of exactly this type. -/
def registerImplementation (r : Registry α γ) (t : TypeName) (source : Option Source)
    (i : Implementation α) : Except RegistryError (Registry α γ) := do
  if let some reason := r.defect? t i then
    throw (.invalidImplementation i.decl.name t reason)
  if let some existing := r.implementation? t then
    throw (.duplicateRegistration .implementation t existing.source)
  let graph ← r.graph.declare i.decl
  return { r with graph, implementations := r.implementations ++ [⟨t, source, i⟩] }

/-- Attaches a view to a type. A repeat is kept. -/
def registerInternalView (r : Registry α γ) (t : TypeName) (source : Option Source)
    (view : TypeName) : Registry α γ :=
  { r with views := r.views ++ [⟨t, source, view⟩] }

/-- The names by which a set of types is listed, in order: the simple name of each, or the full
name where another type has the same simple name. -/
def tellApart (types : List TypeName) : List String :=
  (types.map fun t =>
    if 1 < types.countP (·.simple = t.simple) then t.text else t.simple).mergeSort (· ≤ ·)

/-- The types with a factory, as messages list them. -/
def knownNames (r : Registry α γ) : List String :=
  tellApart (r.factories.map (·.type))

/-- Makes an instance with the factory of exactly this type; those of its supertypes do not
count. -/
def create (r : Registry α γ) (t : TypeName) (context : γ) (name : String) :
    Except RegistryError (α × γ) :=
  match r.factory? t with
  | some entry => .ok (entry.make name context)
  | none => .error (.unknownType t r.displayName r.knownNames)

/-- The types with a factory in brackets. -/
def phrase (r : Registry α γ) : String :=
  "[" ++ RegistryError.nameList r.knownNames ++ "]"

/-- The inspection text of a registry. -/
def inspect (r : Registry α γ) : String :=
  Text.Inspect.record "InstanceFactory"
    [("display_name", Text.Inspect.quoted r.displayName), ("base_interface", r.root.inspect),
      ("public_types", Text.Inspect.set (r.publicTypes.map (·.inspect))),
      ("factories", Text.Inspect.list (r.knownNames.map Text.Inspect.quoted)),
      ("implementations", toString r.implementations.length)]

end Registry

end TypeFamily
