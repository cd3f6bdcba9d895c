import TypeFamily.Manifest.Basic
import TypeFamily.Toml.Block

/-!
Manifests written as TOML. Lists that are empty come first, as keys of the document; then the family
and, one block each, the types, implementations, views and factories. Blocks are set apart by a
blank line.
-/

namespace TypeFamily.Manifest

open Toml

/-- A source, where there is one. -/
def sourceFields : Option String → List (String × Field)
  | some s => [("source", .text s)]
  | none => []

def Family.fields (f : Family) : List (String × Field) :=
  [("display_name", .text f.displayName), ("root", .text f.root),
    ("validation", .text f.validation.keyword)]

/-- The fields of a type; supertypes only where there are any. -/
def TypeItem.fields (t : TypeItem) : List (String × Field) :=
  ("name", .text t.name) ::
    (if t.supertypes.isEmpty then [] else [("extends", .texts t.supertypes)]) ++
    [("kind", .text t.kind.keyword), ("public", .flag t.isPublic), ("managed", .flag t.managed),
      ("constructible", .flag t.constructible)]

def ImplementationItem.fields (i : ImplementationItem) : List (String × Field) :=
  [("type", .text i.type), ("implementation", .text i.implementation)] ++ sourceFields i.source

def ViewItem.fields (v : ViewItem) : List (String × Field) :=
  [("type", .text v.type), ("view", .text v.view)] ++ sourceFields v.source

def FactoryItem.fields (f : FactoryItem) : List (String × Field) :=
  ("type", .text f.type) :: sourceFields f.source

/-- The key of a list, if there is nothing in the list. -/
def emptyField {α : Type} (name : String) (items : List α) : List (String × Field) :=
  if items.isEmpty then [(name, .texts [])] else []

/-- The keys at the top of a manifest: the lists with nothing in them. -/
def topFields (m : Manifest) : List (String × Field) :=
  emptyField "types" m.types ++ emptyField "implementations" m.implementations ++
    emptyField "views" m.views ++ emptyField "factories" m.factories

/-- The blocks of a manifest. -/
def blocks (m : Manifest) : List Block :=
  (if m.topFields.isEmpty then [] else [⟨[], m.topFields⟩]) ++
    [tableBlock "family" m.family.fields] ++
    m.types.map (fun t => itemBlock "types" t.fields) ++
    m.implementations.map (fun i => itemBlock "implementations" i.fields) ++
    m.views.map (fun v => itemBlock "views" v.fields) ++
    m.factories.map (fun f => itemBlock "factories" f.fields)

/-- A manifest as a TOML document. -/
def render (m : Manifest) : String :=
  String.ofList (writeBlocks m.blocks)

end TypeFamily.Manifest
