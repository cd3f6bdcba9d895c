import TypeFamily.Cli.Arguments
import TypeFamily.Cli.Output
import TypeFamily.Manifest.Build
import TypeFamily.Manifest.Render
import TypeFamily.Text.Json

/-!
The commands. Each is a function from what a run finds, its files and its surroundings, to what it
leaves behind.
-/

namespace TypeFamily.Cli

/-- What a run finds around it. -/
structure Surroundings where
  files : FileTree
  /-- The manifest that the environment names. -/
  environment : Option String
  /-- The time, as log lines and reports have it. -/
  time : String

/-- The path of the manifest that a run works with. -/
def Surroundings.manifestPath (s : Surroundings) (i : Invocation) : String :=
  Manifest.choosePath i.manifest s.environment

/-- Reads the manifest at a path. -/
def readManifest (files : FileTree) (path : String) : Except ManifestError Manifest :=
  match files.look? path with
  | none => .error (.notFound path)
  | some .directory => .error (.unreadable path FileError.isADirectory.message)
  | some (.file bytes) =>
    match String.fromUTF8? ⟨bytes⟩ with
    | some text => Manifest.ofToml text
    | none => .error (.unreadable path "stream did not contain valid UTF-8")

/-- The entries of reading a manifest. -/
def readLog (path : String) : Except ManifestError Manifest → List LogEntry
  | .ok m =>
    [⟨.manifest, .info, "Loaded manifest", [("family", m.family.displayName), ("path", path),
      ("types", toString m.types.length)]⟩]
  | .error _ => []

/-- Reads a manifest and builds its registry. -/
def loadRegistry (files : FileTree) (path : String) :
    Except LoadError (Manifest × ManifestRegistry) :=
  match readManifest files path with
  | .error e => .error (.manifest e)
  | .ok m =>
    match m.build with
    | .error e => .error (.registry e)
    | .ok r => .ok (m, r)

/-- The entries of loading a registry. -/
def loadLog (files : FileTree) (path : String) : List LogEntry :=
  let read := readManifest files path
  ⟨.commands, .debug, "Loading manifest", [("path", path)]⟩ :: readLog path read ++
    match read with
    | .ok m => m.buildLog
    | .error _ => []

/-- An answer to a question: the exit code and what is written. -/
abbrev Answer : Type :=
  Nat × List Piece

/-- A report as JSON. -/
def reportJson (time : String) (p : Registry.Report) : Text.Json :=
  .record
    [("family", .text p.family), ("checked", .number p.checked),
      ("failures", .list (p.failures.map fun f =>
        .record [("type_name", .text f.type.text), ("message", .text f.message)])),
      ("timestamp", .text time)]

/-- The report that a check prints under a policy. -/
def checkReport (policy : ValidationPolicy) (r : ManifestRegistry) : Registry.Report :=
  match policy with
  | .failFast => r.report.take 1
  | .aggregate => r.report

/-- Checks a registry and prints the report as JSON. -/
def checkJson (time : String) (m : Manifest) (r : ManifestRegistry) : Answer :=
  let shown := checkReport m.family.validation r
  (if shown.isOk then 0 else 1,
    r.reportLog.map .log ++ Piece.lines [(reportJson time shown).pretty 0])

/-- Checks a registry and prints what is wrong with it. -/
def checkText (m : Manifest) (r : ManifestRegistry) : Answer :=
  let start := Piece.lines
    ["🔍 Validating " ++ r.displayName ++ " (root: " ++ r.root.text ++ ")..."]
  let valid := Piece.lines
    ["   ✅ All " ++ toString r.publicTypes.length ++ " public type(s) valid"]
  match m.family.validation with
  | .failFast =>
    let start := start ++ r.validateLog.map .log
    match r.validate with
    | .error e => (1, start ++ [.err ("   ❌ " ++ e.message ++ "\n")])
    | .ok () => (0, start ++ valid)
  | .aggregate =>
    let start := start ++ r.reportLog.map .log
    if r.report.isOk then (0, start ++ valid)
    else
      (1, start ++
        r.report.failures.map (fun f =>
          .err ("   ❌ " ++ f.type.text ++ ": " ++ f.message ++ "\n")) ++
        [.err ("\n   " ++ toString r.report.failures.length ++ " of " ++
          toString r.report.checked ++ " public type(s) invalid\n")])

/-- How the listing of types says where a type gets its implementation. -/
def resolutionPhrase (r : ManifestRegistry) (t : TypeName) : String :=
  match r.resolve t with
  | .ok found =>
    if found.owner = t then found.implementation.text
    else found.implementation.text ++ " (inherited from " ++ found.owner.text ++ ")"
  | .error e => "unresolved: " ++ e.message

/-- Lists the public types. The column of names is as wide as the longest has bytes. -/
def listTypes (r : ManifestRegistry) : Answer :=
  if r.publicTypes.isEmpty then
    (0, Piece.lines ["No public types registered for " ++ r.displayName ++ "."])
  else
    let width := (r.publicTypes.map (·.text.utf8ByteSize)).foldl max 0
    (0,
      Piece.lines ["Public types of " ++ r.displayName ++ " (" ++
        toString r.publicTypes.length ++ " registered, root: " ++ r.root.text ++ "):\n"] ++
      r.publicTypes.flatMap fun t =>
        (r.resolveLog t).map .log ++
        Piece.lines ["  " ++ Text.pad .left width t.text ++ "  factory: " ++
          (if r.hasFactory t then "yes" else "no ") ++ "  implementation: " ++
          resolutionPhrase r t ++ if r.graph.isManaged t then " [managed]" else ""])

/-- Shows where a type gets its implementation. The type owns it if it is the owner as it is
spelled. -/
def showResolution (spelling : String) (found : Resolution) : List Piece :=
  Piece.lines
    [spelling, "  implementation: " ++ found.implementation.text,
      "  registered on:  " ++
        if found.owner.text = spelling then spelling ++ " (own registration)"
        else found.owner.text ++ " (inherited)"]

/-- Lists the views of a type. -/
def listViews (r : ManifestRegistry) (spelling : String) : Answer :=
  let views := r.internalViews (.ofString spelling)
  if views.isEmpty then
    (0, Piece.lines ["No internal views registered for " ++ spelling ++ "."])
  else
    (0, Piece.lines (("Internal views of " ++ spelling ++ ":") ::
      views.map fun v => "  - " ++ v.text))

/-- An instance as JSON. -/
def instanceJson (i : DeclaredInstance) : Text.Json :=
  .record
    ([("type_name", .text i.type.text), ("name", .text i.name), ("path", .text i.path)] ++
      i.implementation.toList.map fun t => ("implementation", .text t.text))

/-- Answers a question about a registry, and says what that tells the log beforehand. -/
def answer (time : String) (m : Manifest) (r : ManifestRegistry) :
    Query → Except RegistryError Answer × List LogEntry
  | .check true => (.ok (checkJson time m r), [])
  | .check false => (.ok (checkText m r), [])
  | .types => (.ok (listTypes r), [])
  | .resolve type =>
    let t := TypeName.ofString type
    ((r.resolve t).map fun found => (0, showResolution type found), r.resolveLog t)
  | .views type => (.ok (listViews r type), [])
  | .create type name parent =>
    ((r.create (.ofString type) { parent } name).map fun (made, _) =>
      (0, Piece.lines [(instanceJson made).pretty 0]), [])

/-- Loads a registry and answers a question about it. -/
def runQuery (s : Surroundings) (path : String) (q : Query) : Outcome :=
  let files := s.files
  let log := (loadLog files path).map Piece.log
  match loadRegistry files path with
  | .error e => .failed files log e.inspect
  | .ok (m, r) =>
    match answer s.time m r q with
    | (.ok (exit, pieces), told) => { exit, pieces := log ++ told.map .log ++ pieces, files }
    | (.error e, told) => .failed files (log ++ told.map .log) e.inspect

/-- Writes a manifest to start from. One that exists is kept, unless `force` says otherwise. -/
def runInit (s : Surroundings) (path : String) (force : Bool) : Outcome :=
  if (s.files.look? path).isSome ∧ !force then
    { pieces := Piece.lines
        ["  Manifest already exists: " ++ path, "  Use --force to overwrite it."]
      files := s.files }
  else
    match s.files.writeDeep path Manifest.starter.render with
    | .error e =>
      .failed s.files [] (Text.Inspect.record "Os"
        [("code", toString e.code), ("kind", e.kind), ("message", Text.Inspect.quoted e.phrase)])
    | .ok files =>
      { pieces := Piece.lines
          ["✅ Wrote starter manifest: " ++ path, "\nNext steps:",
            "  polyreg check          # validate the registrations",
            "  polyreg types          # see how each public type resolves"]
        files }

/-- Prints the manifest as it was understood. -/
def runShow (s : Surroundings) (path : String) : Outcome :=
  let read := readManifest s.files path
  match read with
  | .ok m =>
    { pieces := (readLog path read).map .log ++ Piece.lines [m.render], files := s.files }
  | .error e =>
    .failed s.files [] (Text.Inspect.quoted ("Failed to load manifest: " ++ e.message))

/-- Runs what a command line asks for. -/
def run (s : Surroundings) (i : Invocation) : Outcome :=
  let path := s.manifestPath i
  match i.command with
  | .version => { pieces := Piece.lines ["polyreg 0.1.0"], files := s.files }
  | .init force => runInit s path force
  | .manifestPath => { pieces := Piece.lines [path], files := s.files }
  | .manifestShow => runShow s path
  | .ask q => runQuery s path q

/-- The log entries that are asked for: by the filter in the environment if it makes sense, or else
by the command line. -/
def logFilter (environment : Option String) (i : Invocation) : LogFilter :=
  (environment.bind LogFilter.ofString?).getD (.upTo (if i.verbose then .debug else .info))

end TypeFamily.Cli
