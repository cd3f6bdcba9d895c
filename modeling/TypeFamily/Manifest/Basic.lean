import TypeFamily.TypeDecl

/-!
Manifests: a family of types and everything that is registered for it, written down. A manifest
keeps its names as they are spelled; they are compared, and taken over into declarations, without
the white space at their ends.
-/

namespace TypeFamily

/-- Whether a check stops at the first invalid type or lists them all. -/
inductive ValidationPolicy where
  | failFast
  | aggregate
deriving DecidableEq, Inhabited, Repr

namespace ValidationPolicy

/-- The policy as manifests spell it. -/
def keyword : ValidationPolicy → String
  | failFast => "fail_fast"
  | aggregate => "aggregate"

/-- The policy that a manifest means by a word. -/
def ofKeyword? (word : String) : Option ValidationPolicy :=
  [failFast, aggregate].find? (·.keyword = word)

theorem ofKeyword?_keyword (p : ValidationPolicy) : ofKeyword? p.keyword = some p := by
  cases p <;> decide

end ValidationPolicy

namespace Manifest

/-- The family that a manifest describes. -/
structure Family where
  displayName : String := "polyreg types"
  root : String
  validation : ValidationPolicy := .failFast
deriving DecidableEq, Inhabited, Repr

/-- A type that a manifest declares. -/
structure TypeItem where
  name : String
  supertypes : List String := []
  kind : TypeKind := .interface
  isPublic : Bool := false
  managed : Bool := false
  constructible : Bool := true
deriving DecidableEq, Inhabited, Repr

/-- An implementation that a manifest registers; the implementation type is one it declares. -/
structure ImplementationItem where
  type : String
  implementation : String
  source : Option String := none
deriving DecidableEq, Inhabited, Repr

/-- A view that a manifest attaches to a type. -/
structure ViewItem where
  type : String
  view : String
  source : Option String := none
deriving DecidableEq, Inhabited, Repr

/-- A factory that a manifest registers. -/
structure FactoryItem where
  type : String
  source : Option String := none
deriving DecidableEq, Inhabited, Repr

end Manifest

/-- A family of types and what is registered for it. -/
structure Manifest where
  family : Manifest.Family
  types : List Manifest.TypeItem := []
  implementations : List Manifest.ImplementationItem := []
  views : List Manifest.ViewItem := []
  factories : List Manifest.FactoryItem := []
deriving DecidableEq, Inhabited, Repr

namespace Manifest

/-- The declaration of a type. -/
def TypeItem.toDecl (t : TypeItem) : TypeDecl :=
  .ofStrings t.name t.kind t.supertypes t.managed

/-- The first declared type of a name. -/
def typeItem? (m : Manifest) (name : String) : Option TypeItem :=
  m.types.find? fun t => Text.trim t.name = Text.trim name

/-- A small manifest to start from. -/
def starter : Manifest where
  family := { displayName := "shape types", root := "Shape" }
  types :=
    [{ name := "Circle", supertypes := ["Shape"], isPublic := true },
      { name := "Resizable" },
      { name := "DefaultCircle", supertypes := ["Circle", "Resizable"], kind := .concrete }]
  implementations :=
    [{ type := "Circle", implementation := "DefaultCircle", source := some "core shapes" }]
  views := [{ type := "Circle", view := "Resizable", source := some "core shapes" }]
  factories := [{ type := "Circle", source := some "core shapes" }]

/-- The file that a manifest is looked for in when no other is named. -/
def defaultPath : String :=
  "polyreg.toml"

/-- The path of the manifest: one that is given, or else one that the environment names, or else the
default. Blanks do not name a path. -/
def choosePath (given environment : Option String) : String :=
  match given, environment with
  | some path, _ => path
  | none, some path => if Text.isBlankText path then defaultPath else path
  | none, none => defaultPath

end Manifest

end TypeFamily
