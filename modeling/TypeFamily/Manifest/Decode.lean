import TypeFamily.Manifest.Basic
import TypeFamily.Value

/-!
Manifests and declarations read off values. A record is a table with a key for each field, or an
array with the fields in their order; keys of no field are passed over, and a field that is left out
takes its default if it has one. The choices among several words are such a word, or a table with
the word as its only key and nothing of note in it.
-/

namespace TypeFamily

/-- What a value was written in. -/
inductive Encoding where
  | toml
  | json
deriving DecidableEq, Repr

namespace Encoding

/-- The values that stand for nothing. -/
def isNothing : Encoding → Value → Bool
  | json, .null => true
  | toml, .array items => items.isEmpty
  | toml, .tables items => items.isEmpty
  | toml, .table _ entries => entries.isEmpty
  | _, _ => false

/-- The fields of a record by their names. In JSON an array must not be longer than the record. -/
def fields? (e : Encoding) (names : List String) : Value → Option Entries
  | .table _ entries => some entries
  | .array items | .tables items =>
    if e = .json ∧ names.length < items.length then none else some (names.zip items)
  | _ => none

/-- The word that a choice is made with. -/
def choice? (e : Encoding) : Value → Option String
  | .text s => some s
  | .table _ [(word, v)] => if e.isNothing v then some word else none
  | _ => none

end Encoding

namespace Value

/-- The text that a value is. -/
def text? : Value → Option String
  | .text s => some s
  | _ => none

/-- The truth value that a value is. -/
def boolean? : Value → Option Bool
  | .boolean b => some b
  | _ => none

/-- The text or the absence of one that a value stands for. -/
def optionalText? : Value → Option (Option String)
  | .null => some none
  | .text s => some (some s)
  | _ => none

/-- A list of what `read?` makes of each item. -/
def list? {α : Type} (read? : Value → Option α) : Value → Option (List α)
  | .array items | .tables items => items.mapM read?
  | _ => none

end Value

namespace Entries

/-- A field that must be there. -/
def required? {α : Type} (fields : Entries) (key : String) (read? : Value → Option α) : Option α :=
  (fields.get? key).bind read?

/-- A field with a default. -/
def optional? {α : Type} (fields : Entries) (key : String) (read? : Value → Option α)
    (default : α) : Option α :=
  match fields.get? key with
  | some v => read? v
  | none => some default

end Entries

/-- The declaration that a value holds. Its names are taken over as they stand. -/
def TypeDecl.ofValue? (e : Encoding) (v : Value) : Option TypeDecl := do
  let fields ← e.fields? ["name", "supertypes", "kind", "managed"] v
  let name? (v : Value) : Option TypeName := v.text?.map TypeName.mk
  return {
    name := ← fields.required? "name" name?
    supertypes := ← fields.optional? "supertypes" (Value.list? name?) []
    kind := ← fields.optional? "kind" (fun v => (e.choice? v).bind TypeKind.ofKeyword?) .interface
    managed := ← fields.optional? "managed" Value.boolean? false }

namespace Manifest

/-- The family that a value holds. -/
def Family.ofValue? (e : Encoding) (v : Value) : Option Family := do
  let fields ← e.fields? ["display_name", "root", "validation"] v
  return {
    displayName := ← fields.optional? "display_name" Value.text? "polyreg types"
    root := ← fields.required? "root" Value.text?
    validation := ← fields.optional? "validation"
      (fun v => (e.choice? v).bind ValidationPolicy.ofKeyword?) .failFast }

/-- The type that a value holds. -/
def TypeItem.ofValue? (e : Encoding) (v : Value) : Option TypeItem := do
  let fields ← e.fields? ["name", "extends", "kind", "public", "managed", "constructible"] v
  return {
    name := ← fields.required? "name" Value.text?
    supertypes := ← fields.optional? "extends" (Value.list? Value.text?) []
    kind := ← fields.optional? "kind" (fun v => (e.choice? v).bind TypeKind.ofKeyword?) .interface
    isPublic := ← fields.optional? "public" Value.boolean? false
    managed := ← fields.optional? "managed" Value.boolean? false
    constructible := ← fields.optional? "constructible" Value.boolean? true }

/-- The implementation that a value holds. -/
def ImplementationItem.ofValue? (e : Encoding) (v : Value) : Option ImplementationItem := do
  let fields ← e.fields? ["type", "implementation", "source"] v
  return {
    type := ← fields.required? "type" Value.text?
    implementation := ← fields.required? "implementation" Value.text?
    source := ← fields.optional? "source" Value.optionalText? none }

/-- The view that a value holds. -/
def ViewItem.ofValue? (e : Encoding) (v : Value) : Option ViewItem := do
  let fields ← e.fields? ["type", "view", "source"] v
  return {
    type := ← fields.required? "type" Value.text?
    view := ← fields.required? "view" Value.text?
    source := ← fields.optional? "source" Value.optionalText? none }

/-- The factory that a value holds. -/
def FactoryItem.ofValue? (e : Encoding) (v : Value) : Option FactoryItem := do
  let fields ← e.fields? ["type", "source"] v
  return {
    type := ← fields.required? "type" Value.text?
    source := ← fields.optional? "source" Value.optionalText? none }

/-- The manifest that a value holds. -/
def ofValue? (e : Encoding) (v : Value) : Option Manifest := do
  let fields ← e.fields? ["family", "types", "implementations", "views", "factories"] v
  return {
    family := ← fields.required? "family" (Family.ofValue? e)
    types := ← fields.optional? "types" (Value.list? (TypeItem.ofValue? e)) []
    implementations :=
      ← fields.optional? "implementations" (Value.list? (ImplementationItem.ofValue? e)) []
    views := ← fields.optional? "views" (Value.list? (ViewItem.ofValue? e)) []
    factories := ← fields.optional? "factories" (Value.list? (FactoryItem.ofValue? e)) [] }

end Manifest

end TypeFamily
