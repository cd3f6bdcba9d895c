import TypeFamily.Registry.Basic

/-!
Where a type gets its default implementation. A type either owns one or inherits the only one among
its ancestors in the family; between several ancestors nothing is ever chosen.
-/

namespace TypeFamily.Registry

variable {α γ : Type}

/-- The implementations that a type could inherit, nearest ancestor first. -/
def candidates (r : Registry α γ) (t : TypeName) : List Resolution :=
  (r.graph.familyAncestors t r.root).filterMap fun a =>
    (r.implementation? a).map (·.resolution)

/-- The implementation that a type owns or else the only one it can inherit. -/
def resolve (r : Registry α γ) (t : TypeName) : Except RegistryError Resolution :=
  match r.implementation? t with
  | some own => .ok own.resolution
  | none =>
    match r.candidates t with
    | [] => .error (.noDefaultImplementation t)
    | [only] => .ok only
    | several => .error (.ambiguousImplementation t several)

/-- The instance that the constructor of the default implementation makes. -/
def newDefaultInstance (r : Registry α γ) (t : TypeName) : Except RegistryError α := do
  let found ← r.resolve t
  match (r.implementation? found.owner).bind (·.implementation.construct?) with
  | some made => return made
  | none => throw (.invalidImplementation found.implementation t .noDefaultConstructor)

end TypeFamily.Registry
