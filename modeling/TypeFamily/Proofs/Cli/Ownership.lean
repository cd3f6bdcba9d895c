import TypeFamily.Proofs.Cli.Check
import TypeFamily.Proofs.Manifest.Creation

/-!
What the program says of where a type gets its implementation. The listing of types compares names,
so it says that an implementation is inherited exactly where the type owns none. A question about a
single type compares the owner with the argument as it is spelled: with white space around it, no
owner is spelled so, and the type is said to inherit what it owns.
-/

namespace TypeFamily.Cli

variable {s : Surroundings} {i : Invocation} {m : Manifest} {r : ManifestRegistry}
  {spelling words : String} {found : Resolution} {t : TypeName}

/-! ### Loaded registries -/

theorem consistent_of_checked {m' : Manifest} (h : m'.checked = .ok m) : m.Consistent := by
  rw [Manifest.checked] at h
  cases hvalid : m'.validate with
  | error flaw => simp [hvalid] at h
  | ok =>
    simp only [hvalid, Except.ok.injEq] at h
    exact Manifest.validate_eq_ok_iff.1 (h ▸ hvalid)

/-- A manifest that is read has been checked. -/
theorem consistent_of_readManifest {files : FileTree} {path : String}
    (h : readManifest files path = .ok m) : m.Consistent := by
  rw [readManifest] at h
  split at h
  · cases h
  · cases h
  · split at h
    · rw [Manifest.ofToml] at h
      split at h
      · exact consistent_of_checked h
      · cases h
    · cases h

/-- The types that own implementations were named by text. -/
theorem canonical_owner (hm : m.Consistent) (hr : m.build = .ok r)
    (h : r.resolve t = .ok found) : found.owner.Canonical := by
  obtain ⟨e, he, _, _⟩ := Registry.exists_entry_of_resolve h
  have describes := Manifest.describes_of_build hm hr
  obtain ⟨howner, item, _, _, _, _, rfl⟩ := (describes.implementations _ _).1 he
  rw [← howner]
  exact TypeName.canonical_ofString item.type

/-! ### What is written -/

/-- What comes of asking a question, of the manifest that an invocation names. -/
def Surroundings.ask (s : Surroundings) (i : Invocation) (q : Query) : Outcome :=
  run s { i with command := .ask q }

/-- The last line that was written ends in these words. -/
def Outcome.Concludes (o : Outcome) (words : String) : Prop :=
  ∃ line, o.written.getLast? = some (.out (line ++ words ++ "\n"))

/-- What is remarked on the owner of an implementation that is shown. -/
def remark (owned : Bool) : String :=
  if owned then " (own registration)" else " (inherited)"

/-- The line in which the listing says in these words how `t` resolves. -/
def typeLine (r : ManifestRegistry) (t : TypeName) (words : String) : String :=
  "  " ++ Text.pad .left ((r.publicTypes.map (·.text.utf8ByteSize)).foldl max 0) t.text ++
    "  factory: " ++ (if r.hasFactory t then "yes" else "no ") ++ "  implementation: " ++ words ++
    if r.graph.isManaged t then " [managed]" else ""

/-- Below the heading, the listing says in these words how the public type `t` resolves. -/
def Outcome.SaysOf (o : Outcome) (r : ManifestRegistry) (t : TypeName) (words : String) : Prop :=
  ∃ k, r.publicTypes[k]? = some t ∧ o.written[k + 1]? = some (.out (typeLine r t words ++ "\n"))

/-- Words that say from which type an implementation is inherited. -/
def inheritedFrom (found : Resolution) : String :=
  found.implementation.text ++ " (inherited from " ++ found.owner.text ++ ")"

theorem typeLine_inj {words words' : String} (h : typeLine r t words = typeLine r t words') :
    words = words' := by
  simp only [typeLine, String.append_left_inj, String.append_right_inj] at h
  exact h

/-- Nothing ends in both remarks. -/
theorem remark_inj {line line' : String} {owned owned' : Bool}
    (h : line ++ remark owned ++ "\n" = line' ++ remark owned' ++ "\n") : owned = owned' := by
  -- read backwards, the remarks part before the lines that they stand on begin
  have reversed := congrArg (fun text => text.toList.reverse) h
  cases owned <;> cases owned' <;> simp [remark] at reversed ⊢

theorem filter_isText_told {β : Type} (told : β → List LogEntry) (line : β → String)
    (xs : List β) :
    (xs.flatMap fun x => (told x).map Piece.log ++ Piece.lines [line x]).filter (·.isText) =
      Piece.lines (xs.map line) := by
  induction xs with
  | nil => rfl
  | cons x xs ih =>
    rw [List.flatMap_cons, List.filter_append, List.filter_append, filter_isText_log,
      filter_isText_lines, ih]
    rfl

theorem run_resolve (h : loadRegistry s.files (s.manifestPath i) = .ok (m, r))
    (hfound : r.resolve (.ofString spelling) = .ok found) :
    (s.ask i (.resolve spelling)).exit = 0 ∧
      (s.ask i (.resolve spelling)).written = showResolution spelling found := by
  have answered : answer s.time m r (.resolve spelling) =
      (.ok (0, showResolution spelling found), r.resolveLog (.ofString spelling)) := by
    rw [answer, hfound]
    rfl
  have asked : ({ i with command := .ask (.resolve spelling) } : Invocation).command =
      .ask (.resolve spelling) := rfl
  obtain ⟨exit, written⟩ := run_ask asked h answered
  exact ⟨exit, written.trans (filter_isText_lines _)⟩

theorem run_types (h : loadRegistry s.files (s.manifestPath i) = .ok (m, r))
    (hpublic : r.publicTypes ≠ []) :
    ∃ heading, (s.ask i .types).written =
      Piece.lines (heading :: r.publicTypes.map fun t => typeLine r t (resolutionPhrase r t)) := by
  have asked : ({ i with command := .ask .types } : Invocation).command = .ask .types := rfl
  have written := (run_ask asked h rfl).2
  rw [listTypes, if_neg (by simpa using hpublic), List.filter_append, filter_isText_lines,
    filter_isText_told] at written
  exact ⟨_, written⟩

/-! ### Whether it is so -/

section Loaded

variable (hload : loadRegistry s.files (s.manifestPath i) = .ok (m, r))

include hload

/-- No owner is spelled with blanks around its name. -/
theorem owner_text_eq_iff (hfound : r.resolve (.ofString spelling) = .ok found) :
    found.owner.text = spelling ↔
      r.hasImplementation (.ofString spelling) ∧ Text.trim spelling = spelling := by
  obtain ⟨hread, hbuild⟩ := loadRegistry_eq_ok_iff.1 hload
  have canonical := canonical_owner (consistent_of_readManifest hread) hbuild hfound
  constructor
  · rintro rfl
    exact ⟨(Registry.owner_eq_iff hfound).1 canonical.symm, congrArg TypeName.text canonical⟩
  · rintro ⟨howns, hbare⟩
    rw [(Registry.owner_eq_iff hfound).2 howns]
    exact hbare

theorem concludes_remark_iff (hfound : r.resolve (.ofString spelling) = .ok found)
    (owned : Bool) : (s.ask i (.resolve spelling)).Concludes (remark owned) ↔
      (owned = true ↔
        r.hasImplementation (.ofString spelling) ∧ Text.trim spelling = spelling) := by
  have last : (s.ask i (.resolve spelling)).written.getLast? =
      some (.out ("  registered on:  " ++ found.owner.text ++
        remark (decide (found.owner.text = spelling)) ++ "\n")) := by
    rw [(run_resolve hload hfound).2, showResolution, Piece.lines]
    by_cases howner : found.owner.text = spelling
    · simp [howner, remark, String.append_assoc]
    · simp [howner, remark, String.append_assoc]
  rw [← owner_text_eq_iff hload hfound, Outcome.Concludes, last]
  constructor
  · rintro ⟨line, hline⟩
    obtain rfl := remark_inj (Piece.out.inj (Option.some.inj hline))
    exact decide_eq_true_iff
  · intro howned
    have same : owned = decide (found.owner.text = spelling) :=
      Bool.eq_iff_iff.2 (howned.trans decide_eq_true_iff.symm)
    exact ⟨_, by rw [same]⟩

theorem saysOf_iff (hpublic : t ∈ r.publicTypes) :
    (s.ask i .types).SaysOf r t words ↔ words = resolutionPhrase r t := by
  obtain ⟨heading, hwritten⟩ := run_types hload (List.ne_nil_of_mem hpublic)
  rw [Outcome.SaysOf, hwritten]
  constructor
  · rintro ⟨k, hk, hline⟩
    refine typeLine_inj (r := r) (t := t) ?_
    simpa [Piece.lines, hk] using hline.symm
  · rintro rfl
    obtain ⟨k, hk⟩ := List.mem_iff_getElem?.1 hpublic
    exact ⟨k, hk, by simp [Piece.lines, hk]⟩

/-- The listing is right about every public type: what it says of one that is inherited is longer
than what it would say of one that is owned. -/
theorem saysOf_inheritedFrom_iff (hfound : r.resolve t = .ok found) (hpublic : t ∈ r.publicTypes) :
    (s.ask i .types).SaysOf r t (inheritedFrom found) ↔ ¬ r.hasImplementation t := by
  rw [saysOf_iff hload hpublic, resolutionPhrase, hfound, ← Registry.owner_eq_iff hfound]
  by_cases howner : found.owner = t
  · simp [howner, inheritedFrom, String.append_assoc]
  · simp [howner, inheritedFrom]

end Loaded

/-- What is said of a type's implementation is right: it is said to be the type's own exactly if the
type owns one, to be inherited exactly if it does not, and the listing says the same of a type that
is public. -/
structure TellsOwnership (s : Surroundings) (i : Invocation) (r : ManifestRegistry)
    (spelling : String) (found : Resolution) : Prop where
  own : (s.ask i (.resolve spelling)).Concludes (remark true) ↔
    r.hasImplementation (.ofString spelling)
  inherited : (s.ask i (.resolve spelling)).Concludes (remark false) ↔
    ¬ r.hasImplementation (.ofString spelling)
  listed : .ofString spelling ∈ r.publicTypes →
    ((s.ask i (.resolve spelling)).Concludes (remark false) ↔
      (s.ask i .types).SaysOf r (.ofString spelling) (inheritedFrom found))

/-- CORRECT: where a manifest loads and a spelling names a type that resolves, the question goes
well, and the answer says that the implementation is the type's own exactly if it is and the
spelling has no blanks around it; else it says that it is inherited. The listing says so of the
public types that own none. So what is said is right exactly if the type owns no implementation or
is spelled without blanks around it. -/
theorem tellsOwnership_iff (hload : loadRegistry s.files (s.manifestPath i) = .ok (m, r))
    (hfound : r.resolve (.ofString spelling) = .ok found) :
    (s.ask i (.resolve spelling)).exit = 0 ∧
    ((s.ask i (.resolve spelling)).Concludes (remark true) ↔
      r.hasImplementation (.ofString spelling) ∧ Text.trim spelling = spelling) ∧
    ((s.ask i (.resolve spelling)).Concludes (remark false) ↔
      ¬ (r.hasImplementation (.ofString spelling) ∧ Text.trim spelling = spelling)) ∧
    (.ofString spelling ∈ r.publicTypes →
      ((s.ask i .types).SaysOf r (.ofString spelling) (inheritedFrom found) ↔
        ¬ r.hasImplementation (.ofString spelling))) ∧
    (TellsOwnership s i r spelling found ↔
      (r.hasImplementation (.ofString spelling) → Text.trim spelling = spelling)) := by
  have own := concludes_remark_iff hload hfound true
  have inherited := concludes_remark_iff hload hfound false
  have listed := saysOf_inheritedFrom_iff hload hfound
  simp only [true_iff, Bool.false_eq_true, false_iff] at own inherited
  refine ⟨(run_resolve hload hfound).1, own, inherited, listed, fun h howns => ?_, fun hbare => ?_⟩
  · exact (own.1 (h.own.2 howns)).2
  · have owns : r.hasImplementation (.ofString spelling) ∧ Text.trim spelling = spelling ↔
        r.hasImplementation (.ofString spelling) := and_iff_left_of_imp hbare
    rw [owns] at own inherited
    exact ⟨own, inherited, fun hpublic => inherited.trans (listed hpublic).symm⟩

/-- The manifest of rings and signets stands in a file `m`. -/
def signetSurroundings : Surroundings where
  files := ⟨[(["m"], .file Manifest.signetManifest.render.toUTF8.data)]⟩
  environment := none
  time := "2024-01-01T00:00:00Z"

def signetInvocation (spelling : String) : Invocation where
  manifest := some "m"
  command := .ask (.resolve spelling)

/-- `Circle` owns an implementation, and `Ring` inherits it. -/
theorem exists_loadRegistry_signet : ∃ r,
    loadRegistry signetSurroundings.files "m" = .ok (Manifest.signetManifest, r) ∧
      r.publicTypes = [⟨"Circle"⟩, ⟨"Signet"⟩, ⟨"Ring"⟩] ∧ r.hasImplementation ⟨"Circle"⟩ ∧
      r.resolve ⟨"Circle"⟩ = .ok ⟨⟨"Circle"⟩, ⟨"Disc"⟩⟩ ∧
      r.resolve ⟨"Ring"⟩ = .ok ⟨⟨"Circle"⟩, ⟨"Disc"⟩⟩ := by
  have valid : Manifest.signetManifest.validate = .ok () := by rfl
  obtain ⟨r, built, ring⟩ := Manifest.exists_build_signetManifest
  have describes := Manifest.describes_of_build (Manifest.validate_eq_ok_iff.1 valid) built
  have own := (describes.implementations ⟨"Circle"⟩ _).2
    ⟨rfl, { type := "Circle", implementation := "Disc" }, by decide,
      { name := "Disc", supertypes := ["Circle"], kind := .concrete }, by decide, by rfl, by rfl⟩
  refine ⟨r, loadRegistry_render valid built, describes.publicTypes, ?_, ?_, ring⟩
  · rw [Registry.hasImplementation, own, Option.isSome_some]
  · rw [Registry.resolve_of_some own]
    rfl

/-- What is said of `Circle` as it is spelled in the manifest is right, and what is said of `Ring`
is with blanks around it. -/
theorem tellsOwnership_iff_signet : ∃ r,
    loadRegistry signetSurroundings.files "m" = .ok (Manifest.signetManifest, r) ∧
      r.resolve (.ofString "Circle") = .ok ⟨⟨"Circle"⟩, ⟨"Disc"⟩⟩ ∧
      TellsOwnership signetSurroundings (signetInvocation "Circle") r "Circle"
        ⟨⟨"Circle"⟩, ⟨"Disc"⟩⟩ ∧
      r.resolve (.ofString " Ring ") = .ok ⟨⟨"Circle"⟩, ⟨"Disc"⟩⟩ ∧
      TellsOwnership signetSurroundings (signetInvocation " Ring ") r " Ring "
        ⟨⟨"Circle"⟩, ⟨"Disc"⟩⟩ := by
  obtain ⟨r, hload, _, _, circle, ring⟩ := exists_loadRegistry_signet
  have inherits : ¬ r.hasImplementation ⟨"Ring"⟩ := by
    rw [← Registry.owner_eq_iff ring]
    decide
  have bare : r.resolve (.ofString "Circle") = .ok ⟨⟨"Circle"⟩, ⟨"Disc"⟩⟩ := circle
  have padded : r.resolve (.ofString " Ring ") = .ok ⟨⟨"Circle"⟩, ⟨"Disc"⟩⟩ := ring
  have told := tellsOwnership_iff (i := signetInvocation "Circle") hload bare
  have told' := tellsOwnership_iff (i := signetInvocation " Ring ") hload padded
  refine ⟨r, hload, bare, told.2.2.2.2.2 fun _ => by rfl, padded, told'.2.2.2.2.2 fun howns => ?_⟩
  exact absurd howns inherits

/-- With blanks around it, `Circle` is said to inherit what it owns. -/
theorem not_tellsOwnership_signet : ∃ r,
    loadRegistry signetSurroundings.files "m" = .ok (Manifest.signetManifest, r) ∧
      r.resolve (.ofString " Circle ") = .ok ⟨⟨"Circle"⟩, ⟨"Disc"⟩⟩ ∧
      r.hasImplementation (.ofString " Circle ") ∧
      (run signetSurroundings (signetInvocation " Circle ")).written =
        Piece.lines [" Circle ", "  implementation: Disc", "  registered on:  Circle (inherited)"] ∧
      ¬ TellsOwnership signetSurroundings (signetInvocation " Circle ") r " Circle "
        ⟨⟨"Circle"⟩, ⟨"Disc"⟩⟩ := by
  obtain ⟨r, hload, _, howns, circle, _⟩ := exists_loadRegistry_signet
  have padded : Text.trim " Circle " ≠ " Circle " := by decide
  have spelled : r.resolve (.ofString " Circle ") = .ok ⟨⟨"Circle"⟩, ⟨"Disc"⟩⟩ := circle
  have said := concludes_remark_iff (i := signetInvocation " Circle ") hload spelled true
  refine ⟨r, hload, spelled, howns, ?_, fun h => ?_⟩
  · exact (run_resolve (i := signetInvocation " Circle ") hload spelled).2
  · exact padded ((said.1 (h.own.2 howns)).1 rfl).2

end TypeFamily.Cli
