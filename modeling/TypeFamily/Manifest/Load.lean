import TypeFamily.Manifest.Decode
import TypeFamily.Manifest.Validate
import TypeFamily.Toml.Document

/-!
Manifests read from TOML. A text that is no TOML, or does not have the shape of a manifest, is
malformed; one that has must be without flaw.
-/

namespace TypeFamily

/-- Why there is no manifest to work with. -/
inductive ManifestError where
  | notFound (path : String)
  | unreadable (path reason : String)
  | malformed
  | flawed (flaw : Manifest.Flaw)
deriving DecidableEq, Repr

namespace ManifestError

/-- The error in words. -/
def message : ManifestError → String
  | notFound path =>
      "No manifest found at " ++ path ++ "; run `polyreg init` or pass --manifest"
  | unreadable path reason => "Failed to read manifest at " ++ path ++ ": " ++ reason
  | malformed => "Failed to parse manifest"
  | flawed flaw => "Manifest validation failed: " ++ flaw.phrase

/-- The name of the kind of error. -/
def kind : ManifestError → String
  | notFound _ => "NotFound"
  | unreadable _ _ => "ReadError"
  | malformed => "ParseError"
  | flawed _ => "ValidationError"

/-- The inspection text of an error. -/
def inspect (e : ManifestError) : String :=
  match e with
  | notFound path => Text.Inspect.record e.kind [("path", Text.Inspect.quoted path)]
  | unreadable path reason =>
      Text.Inspect.record e.kind
        [("path", Text.Inspect.quoted path), ("reason", Text.Inspect.quoted reason)]
  | malformed => e.kind
  | flawed flaw => Text.Inspect.wrapped e.kind (Text.Inspect.quoted flaw.phrase)

end ManifestError

namespace Manifest

/-- A manifest that has been checked. -/
def checked (m : Manifest) : Except ManifestError Manifest :=
  match m.validate with
  | .ok () => .ok m
  | .error flaw => .error (.flawed flaw)

/-- Reads and checks a manifest. -/
def ofToml (s : String) : Except ManifestError Manifest :=
  match (Toml.parse s).bind fun es => ofValue? .toml (.table .header es) with
  | some m => m.checked
  | none => .error .malformed

end Manifest

end TypeFamily
