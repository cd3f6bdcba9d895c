import TypeFamily.Registry.Resolve

/-!
The sweep over the public types at the end of configuration. Each must belong to the family; one
with an implementation of its own needs it to fit, views included; any other must be managed and
inherit exactly one.
-/

namespace TypeFamily.Registry

variable {α γ : Type}

/-- What is wrong with the implementation that a public type owns, now that ancestry is taken as it
is declared. -/
def ownDefect? (r : Registry α γ) (t : TypeName) (own : ImplementationEntry α) : Option Defect :=
  if !r.graph.isAssignable r.root own.name then some (.notAssignable r.root)
  else if !r.graph.isAssignable t own.name then some (.notSubtype t)
  else none

/-- The first view attached to a type that its own implementation does not extend. Views of its
ancestors are theirs to check. -/
def unmetView? (r : Registry α γ) (t : TypeName) (own : ImplementationEntry α) :
    Option ViewEntry :=
  (r.viewEntries t).find? fun v => !r.graph.isAssignable v.view own.name

/-- What keeps a public type that owns an implementation from being valid. -/
def checkOwn (r : Registry α γ) (t : TypeName) (own : ImplementationEntry α) :
    Except RegistryError Unit :=
  match r.ownDefect? t own with
  | some reason => .error (.invalidImplementation own.name t reason)
  | none =>
    match r.unmetView? t own with
    | some v => .error (.incompatibleInternalView t own.name v.view own.source v.source)
    | none => .ok ()

/-- What keeps a public type that owns no implementation from being valid. -/
def checkInherited (r : Registry α γ) (t : TypeName) : Except RegistryError Unit :=
  match r.resolve t with
  | .error e => .error e
  | .ok found => if r.graph.isManaged t then .ok () else .error (.unmanagedExtension t found.owner)

/-- Checks one public type. -/
def check (r : Registry α γ) (t : TypeName) : Except RegistryError Unit :=
  if !r.graph.isAssignable r.root t then .error (.notInFamily t r.root)
  else
    match r.implementation? t with
    | some own => r.checkOwn t own
    | none => r.checkInherited t

/-- Checks the public types in the order they were registered, up to the first that fails. -/
def validate (r : Registry α γ) : Except RegistryError Unit :=
  r.publicTypes.forM r.check

/-- A public type that did not pass, and why: in words and as the error itself. -/
structure Failure where
  type : TypeName
  message : String
  error : RegistryError
deriving DecidableEq, Repr

/-- What a sweep over every public type found. -/
structure Report where
  family : String
  checked : Nat
  failures : List Failure
deriving DecidableEq, Repr

/-- What is wrong with one public type. -/
def failure? (r : Registry α γ) (t : TypeName) : Option Failure :=
  match r.check t with
  | .ok () => none
  | .error e => some ⟨t, e.message, e⟩

/-- Checks every public type and keeps all that fail, in the order they were registered. -/
def report (r : Registry α γ) : Report where
  family := r.displayName
  checked := r.publicTypes.length
  failures := r.publicTypes.filterMap r.failure?

namespace Report

def isOk (p : Report) : Bool :=
  p.failures.isEmpty

/-- The first failure, as the outcome of a sweep that stops there. -/
def toExcept (p : Report) : Except RegistryError Unit :=
  match p.failures with
  | [] => .ok ()
  | f :: _ => .error f.error

/-- A report that shows no more than `limit` failures. -/
def take (limit : Nat) (p : Report) : Report :=
  { p with failures := p.failures.take limit }

end Report

end TypeFamily.Registry
