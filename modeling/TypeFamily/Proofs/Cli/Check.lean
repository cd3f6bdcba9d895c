import TypeFamily.Cli.Run
import TypeFamily.Proofs.Manifest.RoundTrip
import TypeFamily.Proofs.Manifest.Faithful
import TypeFamily.Proofs.Registry.Report
import TypeFamily.Proofs.Text.Escape

/-!
What a check of a manifest says and how it ends. In words or as JSON, stopping at the first failure
or listing them all, it ends well exactly if validation succeeds, and what it writes is told by the
failures of the report alone: the first of them or all, according to the policy of the manifest.
Both forms are written out here line by line, the JSON with its texts in quotes that read as they
should.
-/

namespace TypeFamily.Cli

/-! ### What is written -/

/-- Whether a piece is more than an entry of the log. -/
def Piece.isText : Piece → Bool
  | log _ => false
  | out _ => true
  | err _ => true

/-- What a run wrote apart from the log. -/
def Outcome.written (o : Outcome) : List Piece :=
  o.pieces.filter (·.isText)

theorem filter_isText_log (es : List LogEntry) : (es.map Piece.log).filter (·.isText) = [] := by
  simp [List.filter_eq_nil_iff, Piece.isText]

theorem filter_isText_lines (texts : List String) :
    (Piece.lines texts).filter (·.isText) = Piece.lines texts := by
  rw [List.filter_eq_self, Piece.lines]
  intro p hp
  obtain ⟨text, _, rfl⟩ := List.mem_map.1 hp
  rfl

theorem filter_isText_err {β : Type} (text : β → String) (xs : List β) :
    (xs.map fun x => Piece.err (text x)).filter (·.isText) = xs.map fun x => .err (text x) := by
  rw [List.filter_eq_self]
  intro p hp
  obtain ⟨x, _, rfl⟩ := List.mem_map.1 hp
  rfl

/-- The failures that are shown under a policy. -/
def shown (policy : ValidationPolicy) (failures : List Registry.Failure) :
    List Registry.Failure :=
  match policy with
  | .failFast => failures.take 1
  | .aggregate => failures

/-- What a check says in words about `checked` types with these failures among them. -/
def verdict (policy : ValidationPolicy) (checked : Nat) (failures : List Registry.Failure) :
    List Piece :=
  match policy, failures with
  | _, [] => [.out ("   ✅ All " ++ toString checked ++ " public type(s) valid\n")]
  | .failFast, f :: _ => [.err ("   ❌ " ++ f.message ++ "\n")]
  | .aggregate, fs =>
    fs.map (fun f => .err ("   ❌ " ++ f.type.text ++ ": " ++ f.message ++ "\n")) ++
      [.err ("\n   " ++ toString fs.length ++ " of " ++ toString checked ++
        " public type(s) invalid\n")]

/-- A failure as a report in JSON has it. -/
def failureText (f : Registry.Failure) : String :=
  "    \x7b\n      \"type_name\": " ++ Text.Json.quoted f.type.text ++
    ",\n      \"message\": " ++ Text.Json.quoted f.message ++ "\n    \x7d"

/-- The failures as a report in JSON lists them. -/
def failuresText (failures : List Registry.Failure) : String :=
  if failures = [] then "[]"
  else "[\n" ++ ",\n".intercalate (failures.map failureText) ++ "\n  ]"

/-- What a check says as JSON about `checked` types with these failures among them. -/
def reportText (time family : String) (checked : Nat) (failures : List Registry.Failure) :
    String :=
  "\x7b\n  \"family\": " ++ Text.Json.quoted family ++
    ",\n  \"checked\": " ++ toString checked ++
    ",\n  \"failures\": " ++ failuresText failures ++
    ",\n  \"timestamp\": " ++ Text.Json.quoted time ++ "\n\x7d"

variable {s : Surroundings} {i : Invocation} {json : Bool} {m : Manifest} {r : ManifestRegistry}

/-! ### The report as JSON -/

section Json

open Text

theorem pretty_failure (f : Registry.Failure) :
    "    " ++
      (Json.record [("type_name", .text f.type.text), ("message", .text f.message)]).pretty 2 =
        failureText f := by
  have typeName : Json.quoted "type_name" = "\"type_name\"" := by decide
  have message : Json.quoted "message" = "\"message\"" := by decide
  rw [Json.pretty, Json.pretty, Json.prettyMembers, Json.prettyMembers, Json.pretty, typeName,
    message]
  unfold failureText
  rw [← String.toList_inj]
  simp [Json.newline]

theorem pretty_failures (fs : List Registry.Failure) :
    (Json.list (fs.map fun f =>
      .record [("type_name", .text f.type.text), ("message", .text f.message)])).pretty 1 =
        failuresText fs := by
  have outer : Json.newline 1 = "\n" ++ "  " := by decide
  have inner : Json.newline 2 = "\n" ++ "    " := by decide
  by_cases hfs : fs = []
  · rw [hfs]
    rfl
  · have items := append_intercalate "    " ",\n" (fun f : Registry.Failure =>
      (Json.record [("type_name", .text f.type.text), ("message", .text f.message)]).pretty 2) hfs
    simp only [pretty_failure] at items
    rw [Json.pretty_list 1 (by simpa using hfs), List.map_map, outer, inner]
    unfold failuresText
    rw [if_neg hfs, ← items]
    simp only [String.append_assoc]
    rfl

theorem pretty_reportJson (time : String) (p : Registry.Report) :
    (reportJson time p).pretty 0 = reportText time p.family p.checked p.failures := by
  have family : Json.quoted "family" = "\"family\"" := by decide
  have checked : Json.quoted "checked" = "\"checked\"" := by decide
  have failures : Json.quoted "failures" = "\"failures\"" := by decide
  have timestamp : Json.quoted "timestamp" = "\"timestamp\"" := by decide
  rw [reportJson, Json.pretty, Json.prettyMembers, Json.prettyMembers, Json.prettyMembers,
    Json.prettyMembers, pretty_failures, Json.pretty, Json.pretty, Json.pretty, family, checked,
    failures, timestamp]
  unfold reportText
  rw [← String.toList_inj]
  simp [Json.newline]

end Json

/-! ### The two forms -/

/-- Cutting the list of failures short does not make a registry valid. -/
theorem isOk_checkReport (policy : ValidationPolicy) (r : ManifestRegistry) :
    (checkReport policy r).isOk = r.report.isOk := by
  cases policy with
  | failFast =>
    rw [checkReport, Registry.Report.isOk, Registry.Report.isOk, Registry.Report.take]
    cases r.report.failures <;> rfl
  | aggregate => rfl

theorem exit_checkJson (time : String) (m : Manifest) (r : ManifestRegistry) :
    (checkJson time m r).1 = if r.report.isOk then 0 else 1 := by
  rw [checkJson, isOk_checkReport]

theorem exit_checkText (m : Manifest) (r : ManifestRegistry) :
    (checkText m r).1 = if r.report.isOk then 0 else 1 := by
  rw [checkText, Registry.validate_eq_toExcept, Registry.Report.isOk, Registry.Report.toExcept]
  cases m.family.validation with
  | failFast => cases r.report.failures <;> rfl
  | aggregate => cases r.report.failures <;> rfl

theorem written_checkJson (time : String) (m : Manifest) (r : ManifestRegistry) :
    (checkJson time m r).2.filter (·.isText) =
      [.out (reportText time r.displayName r.publicTypes.length
        (shown m.family.validation r.report.failures) ++ "\n")] := by
  rw [checkJson, List.filter_append, filter_isText_log, filter_isText_lines, List.nil_append,
    pretty_reportJson]
  cases m.family.validation <;> rfl

theorem written_checkText (m : Manifest) (r : ManifestRegistry) :
    (checkText m r).2.filter (·.isText) =
      .out ("🔍 Validating " ++ r.displayName ++ " (root: " ++ r.root.text ++ ")...\n") ::
        verdict m.family.validation r.publicTypes.length r.report.failures := by
  have message : ∀ f ∈ r.report.failures, f.error.message = f.message := fun f hf =>
    (Registry.mem_failures_iff.1 hf).2.2.symm
  have heading : Piece.lines
      ["🔍 Validating " ++ r.displayName ++ " (root: " ++ r.root.text ++ ")..."] =
        [.out ("🔍 Validating " ++ r.displayName ++ " (root: " ++ r.root.text ++ ")...\n")] := by
    simp [Piece.lines, String.append_assoc]
  have valid : Piece.lines
      ["   ✅ All " ++ toString r.publicTypes.length ++ " public type(s) valid"] =
        [.out ("   ✅ All " ++ toString r.publicTypes.length ++ " public type(s) valid\n")] := by
    simp [Piece.lines, String.append_assoc]
  -- either policy asks the list of failures what to say, one through `validate`
  rw [checkText, Registry.validate_eq_toExcept, Registry.Report.isOk, Registry.Report.toExcept]
  cases m.family.validation with
  | failFast =>
    cases hf : r.report.failures with
    | nil =>
      simp only [List.filter_append, filter_isText_log, List.append_nil, heading, valid]
      rfl
    | cons f fs =>
      simp only [List.filter_append, filter_isText_log, List.append_nil, heading,
        message f (hf ▸ List.mem_cons_self)]
      rfl
  | aggregate =>
    cases hf : r.report.failures with
    | nil =>
      simp only [List.isEmpty_nil, if_true, List.filter_append, filter_isText_log,
        List.append_nil, heading, valid]
      rfl
    | cons f fs =>
      simp only [List.isEmpty_cons, Bool.false_eq_true, if_false, List.filter_append,
        filter_isText_log, filter_isText_err, List.append_assoc, heading]
      rfl

/-! ### The command -/

theorem loadRegistry_eq_ok_iff {files : FileTree} {path : String} :
    loadRegistry files path = .ok (m, r) ↔ readManifest files path = .ok m ∧ m.build = .ok r := by
  constructor
  · intro h
    rw [loadRegistry] at h
    cases hm : readManifest files path with
    | error e => simp [hm] at h
    | ok m' =>
      cases hbuild : m'.build with
      | error e => simp [hm, hbuild] at h
      | ok r' =>
        simp only [hm, hbuild, Except.ok.injEq, Prod.mk.injEq] at h
        obtain ⟨rfl, rfl⟩ := h
        exact ⟨rfl, hbuild⟩
  · rintro ⟨hm, hr⟩
    simp only [loadRegistry, hm, hr]

/-- The registry that a manifest loads into is one that registrations lead to. -/
theorem reachable_of_loadRegistry {files : FileTree} {path : String}
    (h : loadRegistry files path = .ok (m, r)) : r.Reachable :=
  Manifest.reachable_of_build (loadRegistry_eq_ok_iff.1 h).2

/-- What a question is answered with once a manifest is loaded. Loading tells nothing but the
log. -/
theorem run_ask {q : Query} {a : Answer} {told : List LogEntry} (hi : i.command = .ask q)
    (h : loadRegistry s.files (s.manifestPath i) = .ok (m, r))
    (ha : answer s.time m r q = (.ok a, told)) :
    (run s i).exit = a.1 ∧ (run s i).written = a.2.filter (·.isText) := by
  rw [run, hi]
  simp only [runQuery, h, ha, Outcome.written]
  simp only [List.filter_append, filter_isText_log, List.nil_append, and_self]

theorem run_check (hi : i.command = .ask (.check json))
    (h : loadRegistry s.files (s.manifestPath i) = .ok (m, r)) :
    (run s i).exit = (if json then checkJson s.time m r else checkText m r).1 ∧
      (run s i).written =
        (if json then checkJson s.time m r else checkText m r).2.filter (·.isText) := by
  cases json with
  | true => exact run_ask hi h rfl
  | false => exact run_ask hi h rfl

/-- CORRECT: all ways to validate say the same. For every registry the sweep that stops at the first
failure is the first word of the report, and the report lists the public types that fail. For every
manifest that loads, a check of either form and under either policy ends well exactly if the sweep
does, and shows the first failure or all of them as the policy has it: as JSON in full, in quotes
that read as what is quoted and as nothing else, and in words by their messages and, if all are
shown, their numbers. -/
theorem check_agrees :
    (∀ (α γ : Type) (r : Registry α γ), r.Reachable →
      r.validate = r.report.toExcept ∧ r.report.Tells r) ∧
    (∀ text s, Text.ReadsAs (Text.Json.quoted text) s ↔ s = text) ∧
    ∀ (s : Surroundings) (i : Invocation) (json : Bool) (m : Manifest) (r : ManifestRegistry),
      i.command = .ask (.check json) → loadRegistry s.files (s.manifestPath i) = .ok (m, r) →
      r.Reachable ∧
      ((run s i).exit = 0 ↔ r.validate = .ok ()) ∧ (r.validate ≠ .ok () → (run s i).exit = 1) ∧
      (run s i).written =
        if json then
          [.out (reportText s.time r.displayName r.publicTypes.length
            (shown m.family.validation r.report.failures) ++ "\n")]
        else
          .out ("🔍 Validating " ++ r.displayName ++ " (root: " ++ r.root.text ++ ")...\n") ::
            verdict m.family.validation r.publicTypes.length r.report.failures := by
  refine ⟨fun α γ r hr => ⟨r.validate_eq_toExcept, Registry.report_tells hr.wellFormed⟩,
    fun _ _ => Text.readsAs_json_iff, ?_⟩
  intro s i json m r hi h
  obtain ⟨exit, written⟩ := run_check hi h
  have code : (run s i).exit = if r.report.isOk then 0 else 1 := by
    rw [exit]
    cases json with
    | true => exact exit_checkJson s.time m r
    | false => exact exit_checkText m r
  refine ⟨reachable_of_loadRegistry h, ?_, fun invalid => ?_, ?_⟩
  · rw [code, ← Registry.isOk_report_iff]
    cases r.report.isOk <;> simp
  · rw [code, if_neg (mt Registry.isOk_report_iff.1 invalid)]
  · rw [written]
    cases json with
    | true => exact written_checkJson s.time m r
    | false => exact written_checkText m r

/-! ### A manifest that is loaded -/

/-- A manifest that was written to a file is read from it. -/
theorem readManifest_render {files : FileTree} {path : String}
    (h : files.look? path = some (.file m.render.toUTF8.data)) :
    readManifest files path = m.checked := by
  have decoded : ∀ text : String, String.fromUTF8? ⟨text.toUTF8.data⟩ = some text :=
    fun text => dif_pos text.isValidUTF8
  rw [readManifest, h]
  simp only [decoded, Manifest.ofToml_render_eq_checked]

/-- A manifest that stands alone in a file `m` is loaded if it is valid and can be built. -/
theorem loadRegistry_render (valid : m.validate = .ok ()) (hbuild : m.build = .ok r) :
    loadRegistry ⟨[(["m"], .file m.render.toUTF8.data)]⟩ "m" = .ok (m, r) := by
  have parts : Path.ofString "m" = ⟨["m"]⟩ := by
    rw [Path.ofString, String.splitOn, if_neg (by decide), String.splitOnAux, if_neg (by decide),
      if_neg (by decide), String.splitOnAux, if_pos (by decide)]
    rfl
  have found : ∀ bytes, FileTree.find ⟨[(["m"], .file bytes)]⟩ ⟨["m"]⟩ = .ok (.file bytes) :=
    fun _ => rfl
  refine loadRegistry_eq_ok_iff.2 ⟨?_, hbuild⟩
  rw [readManifest_render (m := m), Manifest.checked, valid]
  rw [FileTree.look?, parts, found]
  rfl

/-- `Ring` and `Disc` are public, and nothing implements them. -/
def bareManifest (policy : ValidationPolicy) : Manifest where
  family := { displayName := "shapes", root := "Shape", validation := policy }
  types :=
    [{ name := "Ring", supertypes := ["Shape"], isPublic := true },
      { name := "Disc", supertypes := ["Shape"], isPublic := true }]

def bareCalls : List Manifest.Call :=
  [.declareType { name := ⟨"Ring"⟩, supertypes := [⟨"Shape"⟩] },
    .declareType { name := ⟨"Disc"⟩, supertypes := [⟨"Shape"⟩] },
    .registerPublicType { name := ⟨"Ring"⟩, supertypes := [⟨"Shape"⟩] },
    .registerPublicType { name := ⟨"Disc"⟩, supertypes := [⟨"Shape"⟩] }]

def bareRegistry : ManifestRegistry :=
  (Registry.empty "shapes" ⟨"Shape"⟩).run bareCalls

theorem build_bareManifest (policy : ValidationPolicy) :
    (bareManifest policy).build = .ok bareRegistry := by
  have setup : (bareManifest policy).setupCalls = bareCalls := by rfl
  have start : (bareManifest policy).emptyRegistry = .empty "shapes" ⟨"Shape"⟩ := by
    cases policy <;> rfl
  have accepted : (Registry.empty "shapes" ⟨"Shape"⟩ : ManifestRegistry).applyAll bareCalls =
      .ok bareRegistry := by
    cbv
  rw [Manifest.build_eq_ok_iff, setup, start]
  exact ⟨bareRegistry, accepted, Registry.applyAll_nil_eq_ok_iff.2 rfl⟩

/-- The manifest stands in a file `m`. -/
def bareSurroundings (policy : ValidationPolicy) : Surroundings where
  files := ⟨[(["m"], .file (bareManifest policy).render.toUTF8.data)]⟩
  environment := some "m"
  time := "2024-01-01T00:00:00Z"

theorem loadRegistry_bare (policy : ValidationPolicy) :
    loadRegistry (bareSurroundings policy).files "m" = .ok (bareManifest policy, bareRegistry) :=
  loadRegistry_render (by cases policy <;> rfl) (build_bareManifest policy)

/-- What is said of a type that nothing implements. -/
def bareMessage (type : String) : String :=
  "Factory registration for '" ++ type ++
    "' is invalid because it doesn't extend an interface with a default implementation"

/-- What is wrong with a type that nothing implements. -/
def bareFailure (type : String) : Registry.Failure where
  type := ⟨type⟩
  message := bareMessage type
  error := .noDefaultImplementation ⟨type⟩

theorem failures_bareRegistry :
    bareRegistry.report.failures = [bareFailure "Ring", bareFailure "Disc"] := by
  have publicTypes : bareRegistry.publicTypes = [⟨"Ring"⟩, ⟨"Disc"⟩] := by cbv
  have checkRing : bareRegistry.check ⟨"Ring"⟩ = .error (.noDefaultImplementation ⟨"Ring"⟩) := by
    cbv
  have checkDisc : bareRegistry.check ⟨"Disc"⟩ = .error (.noDefaultImplementation ⟨"Disc"⟩) := by
    cbv
  have ring : bareRegistry.failure? ⟨"Ring"⟩ = some (bareFailure "Ring") :=
    Registry.failure?_eq_some_iff.2 ⟨rfl, checkRing, by decide⟩
  have disc : bareRegistry.failure? ⟨"Disc"⟩ = some (bareFailure "Disc") :=
    Registry.failure?_eq_some_iff.2 ⟨rfl, checkDisc, by decide⟩
  rw [Registry.report, publicTypes, List.filterMap_cons_some ring, List.filterMap_cons_some disc,
    List.filterMap_nil]

/-- How a report in JSON shows a type that nothing implements. -/
def bareItem (type : String) : String :=
  "    \x7b\n      \"type_name\": \"" ++ type ++ "\",\n      \"message\": \"" ++
    bareMessage type ++ "\"\n    \x7d"

/-- A report in JSON with these items in it. -/
def bareReport (items : String) : String :=
  "\x7b\n  \"family\": \"shapes\",\n  \"checked\": 2,\n  \"failures\": [\n" ++ items ++
    "\n  ],\n  \"timestamp\": \"2024-01-01T00:00:00Z\"\n\x7d\n"

theorem failureText_bareFailure {type : String} (h : type.toList.all Text.Json.isPlain) :
    failureText (bareFailure type) = bareItem type := by
  have message : (bareFailure type).message = bareMessage type := rfl
  have name : (bareFailure type).type.text = type := rfl
  have plain : (bareMessage type).toList.all Text.Json.isPlain :=
    Text.Json.isPlain_append (Text.Json.isPlain_append (by decide) h) (by decide)
  unfold failureText bareItem
  rw [message, name, Text.Json.quoted_of_isPlain h, Text.Json.quoted_of_isPlain plain,
    ← String.toList_inj]
  simp

theorem reportText_bare {failures : List Registry.Failure} (h : failures ≠ []) :
    reportText "2024-01-01T00:00:00Z" "shapes" 2 failures ++ "\n" =
      bareReport (",\n".intercalate (failures.map failureText)) := by
  have family : Text.Json.quoted "shapes" = "\"shapes\"" := by decide
  have time : Text.Json.quoted "2024-01-01T00:00:00Z" = "\"2024-01-01T00:00:00Z\"" := by decide
  have checked : toString 2 = "2" := by decide
  unfold reportText failuresText bareReport
  rw [if_neg h, family, time, checked, ← String.toList_inj]
  simp

/-- Both types are reported. A check in words says what is wrong with the first of them, or with
both and that it is both; a check as JSON lists the first or both. -/
theorem check_agrees_bare :
    bareRegistry.report.Tells bareRegistry ∧
      bareRegistry.report.failures.map (·.type) = [⟨"Ring"⟩, ⟨"Disc"⟩] ∧
      (∀ policy json,
        (run (bareSurroundings policy) { command := .ask (.check json) }).exit = 1) ∧
      (run (bareSurroundings .failFast) { command := .ask (.check true) }).written =
        [.out (bareReport (bareItem "Ring"))] ∧
      (run (bareSurroundings .aggregate) { command := .ask (.check true) }).written =
        [.out (bareReport (bareItem "Ring" ++ ",\n" ++ bareItem "Disc"))] ∧
      (run (bareSurroundings .failFast) { command := .ask (.check false) }).written =
        [.out "🔍 Validating shapes (root: Shape)...\n",
          .err ("   ❌ " ++ bareMessage "Ring" ++ "\n")] ∧
      (run (bareSurroundings .aggregate) { command := .ask (.check false) }).written =
        [.out "🔍 Validating shapes (root: Shape)...\n",
          .err ("   ❌ Ring: " ++ bareMessage "Ring" ++ "\n"),
          .err ("   ❌ Disc: " ++ bareMessage "Disc" ++ "\n"),
          .err "\n   2 of 2 public type(s) invalid\n"] := by
  have invalid : bareRegistry.validate ≠ .ok () := by
    rw [ne_eq, Registry.validate_eq_ok_iff_failures, failures_bareRegistry]
    exact List.cons_ne_nil _ _
  have displayName : bareRegistry.displayName = "shapes" := by cbv
  have root : bareRegistry.root = ⟨"Shape"⟩ := by cbv
  have publicTypes : bareRegistry.publicTypes.length = 2 := by cbv
  have agrees := fun policy json => check_agrees.2.2 (bareSurroundings policy)
    { command := .ask (.check json) } json (bareManifest policy) bareRegistry rfl
    (loadRegistry_bare policy)
  have tells := check_agrees.1 DeclaredInstance CreationContext bareRegistry
    (agrees .failFast true).1
  have written := fun policy json => (agrees policy json).2.2.2
  simp only [failures_bareRegistry, displayName, root, publicTypes] at written
  have ring : failureText (bareFailure "Ring") = bareItem "Ring" :=
    failureText_bareFailure (by decide)
  have disc : failureText (bareFailure "Disc") = bareItem "Disc" :=
    failureText_bareFailure (by decide)
  have first : reportText "2024-01-01T00:00:00Z" "shapes" 2 [bareFailure "Ring"] ++ "\n" =
      bareReport (bareItem "Ring") := by
    rw [reportText_bare (List.cons_ne_nil _ _), List.map_singleton, String.intercalate_singleton,
      ring]
  have both : reportText "2024-01-01T00:00:00Z" "shapes" 2
      [bareFailure "Ring", bareFailure "Disc"] ++ "\n" =
        bareReport (bareItem "Ring" ++ ",\n" ++ bareItem "Disc") := by
    rw [reportText_bare (List.cons_ne_nil _ _), List.map_cons, List.map_singleton,
      String.intercalate_cons_cons, String.intercalate_singleton, ring, disc]
  refine ⟨tells.2, ?_, fun policy json => (agrees policy json).2.2.1 invalid,
    (written .failFast true).trans ?_, (written .aggregate true).trans ?_,
    (written .failFast false).trans ?_, (written .aggregate false).trans ?_⟩
  · rw [failures_bareRegistry]
    rfl
  · rw [← first]
    rfl
  · rw [← both]
    rfl
  · decide
  · decide

end TypeFamily.Cli
