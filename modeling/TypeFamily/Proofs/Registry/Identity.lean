import TypeFamily.Manifest.Decode
import TypeFamily.Proofs.Manifest.Declared
import TypeFamily.Proofs.Registry.DefaultInstance
import TypeFamily.Proofs.Registry.InPlace

/-!
Whether names that differ in white space at their ends can both be held by a registry. Every name
that is given as text is trimmed, and so are those of a declaration that is spelled in text; but one
that is read off a value keeps its names as they stand. So the names of a registry are canonical as
long as those of the declarations are that were read off values and accepted, and only then does the
text of every public type name that type.
-/

namespace TypeFamily

namespace TypeName

variable {n n' : TypeName}

/-- The canonical names are the ones that some text spells. -/
theorem canonical_iff_exists : n.Canonical ↔ ∃ spelling, ofString spelling = n := by
  constructor
  · intro h
    exact ⟨n.text, h⟩
  · rintro ⟨spelling, rfl⟩
    exact canonical_ofString spelling

theorem Canonical.eq_of_trim (h : n.Canonical) (h' : n'.Canonical)
    (same : Text.trim n.text = Text.trim n'.text) : n = n' := by
  rw [← h, ← h', ofString, ofString, same]

end TypeName

namespace TypeDecl

/-- All names in a declaration are canonical. -/
def Canonical (d : TypeDecl) : Prop :=
  d.name.Canonical ∧ ∀ s ∈ d.supertypes, s.Canonical

/-- The ways in which a declaration comes about: spelled in text, or read off a value. -/
inductive Entered : TypeDecl → Prop
  | spelled (name : String) (kind : TypeKind) (supertypes : List String) (managed : Bool) :
    Entered (ofStrings name kind supertypes managed)
  | decoded {e : Encoding} {v : Value} {d : TypeDecl} (h : ofValue? e v = some d) : Entered d

/-- A declaration that is spelled in text is canonical, whatever the text. -/
theorem canonical_ofStrings (name : String) (kind : TypeKind) (supertypes : List String)
    (managed : Bool) : (ofStrings name kind supertypes managed).Canonical := by
  constructor
  · rw [ofStrings, foldl_extending_eq]
    exact TypeName.canonical_ofString name
  · intro s hs
    rw [ofStrings, mem_supertypes_foldl_extending] at hs
    obtain ⟨spelling, _, rfl⟩ := List.mem_map.1 (hs.resolve_left List.not_mem_nil)
    exact TypeName.canonical_ofString spelling

end TypeDecl

namespace Registry

variable {α γ : Type} {r : Registry α γ} {c : Call α γ} {calls : List (Call α γ)} {n : TypeName}

/-! ### Registrations in words -/

/-- The registrations that name types by text, but for their declarations. -/
inductive Call.Worded : Call α γ → Prop
  | declareType {d : TypeDecl} (h : d.Entered) : Worded (.declareType d)
  | registerPublicType {d : TypeDecl} (h : d.Entered) : Worded (.registerPublicType d)
  | registerFactory (type : String) (source : Option Source) (make : Factory α γ) :
    Worded (.registerFactory (.ofString type) source make)
  | registerImplementation (type : String) (source : Option Source) {i : Implementation α}
    (h : i.decl.Entered) : Worded (.registerImplementation (.ofString type) source i)
  | registerInternalView (type view : String) (source : Option Source) :
    Worded (.registerInternalView (.ofString type) source (.ofString view))

theorem Call.Worded.factory? (hc : c.Worded) {e : FactoryEntry α γ} (he : c.factory? = some e) :
    e.type.Canonical := by
  cases hc with
  | registerFactory type source make =>
    obtain rfl := Option.some.inj he
    exact TypeName.canonical_ofString type
  | _ => simp at he

theorem Call.Worded.implementation? (hc : c.Worded) {e : ImplementationEntry α}
    (he : c.implementation? = some e) : e.type.Canonical := by
  cases hc with
  | registerImplementation type source h =>
    obtain rfl := Option.some.inj he
    exact TypeName.canonical_ofString type
  | _ => simp at he

theorem Call.Worded.view? (hc : c.Worded) {v : ViewEntry} (hv : c.view? = some v) :
    v.type.Canonical ∧ v.view.Canonical := by
  cases hc with
  | registerInternalView type view source =>
    obtain rfl := Option.some.inj hv
    exact ⟨TypeName.canonical_ofString type, TypeName.canonical_ofString view⟩
  | _ => simp at hv

/-! ### The names of a registry -/

/-- The names that a registry holds: those that its declarations give and list, the public types,
those that have a factory, an implementation or a view, and the views. -/
inductive Holds (r : Registry α γ) : TypeName → Prop
  | declared {d : TypeDecl} (h : d ∈ r.graph.decls) : Holds r d.name
  | supertype {d : TypeDecl} {s : TypeName} (h : d ∈ r.graph.decls) (hs : s ∈ d.supertypes) :
    Holds r s
  | publicType {p : TypeName} (h : p ∈ r.publicTypes) : Holds r p
  | factory {e : FactoryEntry α γ} (h : e ∈ r.factories) : Holds r e.type
  | implementation {e : ImplementationEntry α} (h : e ∈ r.implementations) : Holds r e.type
  | viewed {v : ViewEntry} (h : v ∈ r.views) : Holds r v.type
  | view {v : ViewEntry} (h : v ∈ r.views) : Holds r v.view

/-- The names by which factories, implementations and views are kept are canonical. -/
structure KeysCanonical (r : Registry α γ) : Prop where
  factories : ∀ e ∈ r.factories, e.type.Canonical
  implementations : ∀ e ∈ r.implementations, e.type.Canonical
  views : ∀ v ∈ r.views, v.type.Canonical ∧ v.view.Canonical

open InPlace

variable {displayName root : String}

theorem keysCanonical_run (hcalls : ∀ c ∈ calls, c.Worded) :
    ((empty displayName (.ofString root) : Registry α γ).run calls).KeysCanonical := by
  have collected := collects_of_applyAll (applyAll_accepted
    (empty displayName (.ofString root) : Registry α γ) calls)
  have worded : ∀ c ∈ accepted (empty displayName (.ofString root)) calls, c.Worded := fun c hc =>
    hcalls c ((accepted_sublist _ _).subset hc)
  refine ⟨fun e he => ?_, fun e he => ?_, fun v hv => ?_⟩
  · rw [collected.factories] at he
    obtain ⟨c, hc, hadds⟩ := List.mem_filterMap.1 he
    exact (worded c hc).factory? hadds
  · rw [collected.implementations] at he
    obtain ⟨c, hc, hadds⟩ := List.mem_filterMap.1 he
    exact (worded c hc).implementation? hadds
  · rw [collected.views] at hv
    obtain ⟨c, hc, hadds⟩ := List.mem_filterMap.1 hv
    exact (worded c hc).view? hadds

/-- The names of a registry are canonical if those are that come in with declarations. -/
theorem forall_holds_canonical_iff (hcalls : ∀ c ∈ calls, c.Worded) :
    let start : Registry α γ := empty displayName (.ofString root)
    (∀ n, (start.run calls).Holds n → n.Canonical) ↔
      ∀ c ∈ accepted start calls, ∀ d, c.decl? = some d → d.Canonical := by
  intro start
  have keys : (start.run calls).KeysCanonical := keysCanonical_run hcalls
  have collected := collects_of_applyAll (applyAll_accepted start calls)
  constructor
  · intro h c hc d hd
    have hmem : d ∈ (start.run calls).graph.decls := (collected.decls d).2 (.inr ⟨c, hc, hd⟩)
    exact ⟨h _ (.declared hmem), fun s hs => h s (.supertype hmem hs)⟩
  · intro h
    have decls : ∀ d ∈ (start.run calls).graph.decls, d.Canonical := by
      intro d hd
      rcases (collected.decls d).1 hd with hstart | ⟨c, hc, hadds⟩
      · obtain rfl : d = { name := .ofString root } := List.mem_singleton.1 hstart
        exact ⟨TypeName.canonical_ofString root, nofun⟩
      · exact h c hc d hadds
    intro n hn
    cases hn with
    | declared hd => exact (decls _ hd).1
    | supertype hd hs => exact (decls _ hd).2 n hs
    | publicType hp =>
      obtain ⟨c, hc, hadds⟩ := ((collected.publicTypes n).1 hp).resolve_left List.not_mem_nil
      obtain ⟨d, hd, rfl⟩ := decl?_of_publicType? hadds
      exact (h c hc d hd).1
    | factory he => exact keys.factories _ he
    | implementation he => exact keys.implementations _ he
    | viewed hv => exact (keys.views _ hv).1
    | view hv => exact (keys.views _ hv).2

/-- CORRECT: in a run of registrations that name types by text, with declarations that are spelled
or read off values, the names of factories, implementations and views are always canonical, and all
names are exactly if those of the accepted declarations are, of which a spelled one never fails. All
names being canonical, no two of them differ at their ends only, and the text of a public type names
that type; while one that is not canonical is named by no text at all. -/
theorem holds_canonical_iff (displayName root : String) (hcalls : ∀ c ∈ calls, c.Worded) :
    let start : Registry α γ := empty displayName (.ofString root)
    let r := start.run calls
    r.KeysCanonical ∧
    ((∀ n, r.Holds n → n.Canonical) ↔
      ∀ c ∈ accepted start calls, ∀ d, c.decl? = some d → d.Canonical) ∧
    (∀ name kind supertypes managed,
      (TypeDecl.ofStrings name kind supertypes managed).Canonical) ∧
    ((∀ n, r.Holds n → n.Canonical) →
      (∀ n n', r.Holds n → r.Holds n' → Text.trim n.text = Text.trim n'.text → n = n') ∧
      ∀ p ∈ r.publicTypes, TypeName.ofString p.text = p) ∧
    ∀ p ∈ r.publicTypes, ¬ p.Canonical → ∀ spelling, TypeName.ofString spelling ≠ p := by
  intro start r
  refine ⟨keysCanonical_run hcalls, forall_holds_canonical_iff hcalls, TypeDecl.canonical_ofStrings,
    fun h => ⟨fun n n' hn hn' => (h n hn).eq_of_trim (h n' hn'), fun p hp => h p (.publicType hp)⟩,
    fun p _ hp spelling hspelling => ?_⟩
  exact hp (TypeName.canonical_iff_exists.2 ⟨spelling, hspelling⟩)

/-- The declaration of a circle as a value. -/
def circleValue (name : String) : Value :=
  .table .inline [("name", .text name), ("supertypes", .array [.text "Shape"])]

/-- A circle is declared in words, and another is read off a value. -/
def circleCalls (name : String) : List (Call Unit Unit) :=
  [.registerPublicType (.ofStrings "\tCircle" .interface ["Shape "] false),
    .registerPublicType { name := ⟨name⟩, supertypes := [⟨"Shape"⟩] }]

def circleRegistry (name : String) : Registry Unit Unit :=
  (empty "shapes" (.ofString "Shape")).run (circleCalls name)

theorem worded_circleCalls (name : String) : ∀ c ∈ circleCalls name, c.Worded := by
  have decoded : TypeDecl.ofValue? .json (circleValue name) =
      some { name := ⟨name⟩, supertypes := [⟨"Shape"⟩] } := by rfl
  simp only [circleCalls, List.forall_mem_cons, List.not_mem_nil]
  exact ⟨.registerPublicType (.spelled _ _ _ _), .registerPublicType (.decoded decoded), nofun⟩

/-- Where the second circle is written without blanks it is the first, and its text names it. -/
theorem holds_canonical_iff_circle :
    (∀ c ∈ circleCalls "Circle", c.Worded) ∧
      (∀ n, (circleRegistry "Circle").Holds n → n.Canonical) ∧
      ∀ p ∈ (circleRegistry "Circle").publicTypes, TypeName.ofString p.text = p := by
  have worded := worded_circleCalls "Circle"
  obtain ⟨_, canonical, spelled, named, _⟩ := holds_canonical_iff "shapes" "Shape" worded
  have decoded : ({ name := ⟨"Circle"⟩, supertypes := [⟨"Shape"⟩] } : TypeDecl).Canonical := by
    have circle : (⟨"Circle"⟩ : TypeName).Canonical := TypeName.canonical_ofString "Circle"
    have shape : (⟨"Shape"⟩ : TypeName).Canonical := TypeName.canonical_ofString "Shape"
    exact ⟨circle, List.forall_mem_singleton.2 shape⟩
  have all : ∀ n, (circleRegistry "Circle").Holds n → n.Canonical := by
    refine canonical.2 fun c hc d hd => ?_
    have hmem := (accepted_sublist _ _).subset hc
    rw [circleCalls, List.mem_cons, List.mem_singleton] at hmem
    rcases hmem with rfl | rfl
    · exact Option.some.inj hd ▸ spelled _ _ _ _
    · exact Option.some.inj hd ▸ decoded
  exact ⟨worded, all, (named all).2⟩

/-- With blanks around it, the second circle is another public type, and its text names the
first. -/
theorem not_canonical_circle :
    (∀ c ∈ circleCalls " Circle ", c.Worded) ∧
      (circleRegistry " Circle ").publicTypes = [⟨"Circle"⟩, ⟨" Circle "⟩] ∧
      ¬ (∀ n, (circleRegistry " Circle ").Holds n → n.Canonical) ∧
      ¬ (∀ n n', (circleRegistry " Circle ").Holds n → (circleRegistry " Circle ").Holds n' →
        Text.trim n.text = Text.trim n'.text → n = n') ∧
      ¬ ∀ p ∈ (circleRegistry " Circle ").publicTypes, TypeName.ofString p.text = p := by
  have publicTypes : (circleRegistry " Circle ").publicTypes =
      [⟨"Circle"⟩, ⟨" Circle "⟩] := by cbv
  have first : ⟨"Circle"⟩ ∈ (circleRegistry " Circle ").publicTypes := by simp [publicTypes]
  have second : ⟨" Circle "⟩ ∈ (circleRegistry " Circle ").publicTypes := by simp [publicTypes]
  have trimmed : Text.trim " Circle " = Text.trim "Circle" := by rfl
  have other : TypeName.ofString " Circle " ≠ ⟨" Circle "⟩ := by decide
  refine ⟨worded_circleCalls " Circle ", publicTypes, fun h => ?_, fun h => ?_, fun h => ?_⟩
  · exact other (h _ (.publicType second))
  · have same := h _ _ (.publicType second) (.publicType first) trimmed
    simp at same
  · exact other (h _ second)

end Registry

end TypeFamily
