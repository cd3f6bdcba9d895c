import TypeFamily.Log.Entry
import TypeFamily.Registry.Call
import TypeFamily.Registry.Validate

/-!
What registering, resolving and validating tell the log. The entries are read off the registry
before and after, so that the operations themselves know nothing of a log.
-/

namespace TypeFamily.Registry

variable {α γ : Type}

/-- A type's declaration was new. -/
def declaredEntry (n : TypeName) : LogEntry :=
  ⟨.hierarchy, .trace, "Declared type", [("type_name", n.text)]⟩

/-- The entries of one registration on the registry as it stands. -/
def callLog (r : Registry α γ) (c : Call α γ) : List LogEntry :=
  let after := r.step c
  let declared (d : TypeDecl) : List LogEntry :=
    if r.graph.size < after.graph.size then [declaredEntry d.name] else []
  let family := ("family", r.displayName)
  match c with
  | .declareType d => declared d
  | .registerPublicType d =>
    (if r.graph.reaches d r.root = .undecided then
      [⟨.registration, .debug, "Public type not yet connected to the root",
        [family, ("type_name", d.name.text)]⟩]
    else []) ++ declared d ++
    (if r.publicTypes.length < after.publicTypes.length then
      [⟨.registration, .debug, "Registered public type",
        [family, ("type_name", d.name.text)]⟩]
    else [])
  | .registerFactory t source _ =>
    if r.accepts c then
      [⟨.registration, .debug, "Registered factory",
        [family, ("type_name", t.text), sourceField source]⟩]
    else []
  | .registerImplementation t source i =>
    if r.accepts c then
      declared i.decl ++
      [⟨.registration, .debug, "Registered implementation",
        [family, ("type_name", t.text), ("implementation", i.decl.name.text),
          sourceField source]⟩]
    else []
  | .registerInternalView t _ view =>
    [⟨.registration, .debug, "Registered internal view",
      [family, ("type_name", t.text), ("view", view.text)]⟩]
where
  /-- The source of a registration, by its own words. -/
  sourceField (source : Option Source) : String × String :=
    ("source", Text.Inspect.optional (source.map fun s => Text.Inspect.quoted s.text))

/-- The entries of registrations made one after the other, up to the first that is refused. -/
def callsLog (r : Registry α γ) : List (Call α γ) → List LogEntry
  | [] => []
  | c :: cs => r.callLog c ++ if r.accepts c then (r.step c).callsLog cs else []

/-- The entries of resolving a type; one that owns an implementation is not worth telling. -/
def resolveLog (r : Registry α γ) (t : TypeName) : List LogEntry :=
  if r.hasImplementation t then []
  else [⟨.resolution, .trace, "Resolved implementation candidates",
    [("type_name", t.text), ("candidates", toString (r.candidates t).length)]⟩]

/-- The entries of checking one public type. -/
def checkLog (r : Registry α γ) (t : TypeName) : List LogEntry :=
  if r.graph.isAssignable r.root t then r.resolveLog t else []

/-- The entries of checking public types up to the first that fails. -/
def checksLog (r : Registry α γ) : List TypeName → List LogEntry
  | [] => []
  | t :: ts => r.checkLog t ++ if (r.failure? t).isSome then [] else r.checksLog ts

/-- The entries of a sweep that stops at the first failure. -/
def validateLog (r : Registry α γ) : List LogEntry :=
  r.checksLog r.publicTypes ++
    if r.report.isOk then
      [⟨.validation, .info, "Registrations validated",
        [("family", r.displayName), ("types", toString r.publicTypes.length)]⟩]
    else []

/-- The entries of a sweep over every public type. -/
def reportLog (r : Registry α γ) : List LogEntry :=
  r.publicTypes.flatMap (fun t => r.checkLog t ++ (r.failure? t).toList.map fun f =>
    ⟨.validation, .warn, "Invalid registration: " ++ f.error.message,
      [("family", r.displayName), ("type_name", t.text)]⟩) ++
  [⟨.validation, .info, "Validation sweep complete",
    [("family", r.displayName), ("types", toString r.publicTypes.length),
      ("failures", toString r.report.failures.length)]⟩]

end TypeFamily.Registry
