import TypeFamily.Proofs.Manifest.Faithful
import TypeFamily.Proofs.Registry.DefaultInstance

/-!
What a registry that was built from a manifest creates. Each factory keeps what its type resolved to
when its turn came, and no factory that follows changes what any type resolves to, so what is kept
is what the finished registry answers. In a context, the paths of the instances are recorded one
after another and nothing else changes, whatever requests fail on the way.
-/

namespace TypeFamily

variable {α γ : Type}

namespace Registry

/-- A call for an instance of a type, by name. -/
structure Request where
  type : TypeName
  name : String

/-- The answer to a request in a context, and the context after it: as it was, if the request
fails. -/
def attempt (r : Registry α γ) (context : γ) (q : Request) : Except RegistryError α × γ :=
  match r.create q.type context q.name with
  | .ok (made, context') => (.ok made, context')
  | .error e => (.error e, context)

/-- The answers to requests that are made one after another in a context, and the context after
them. -/
def createAll (r : Registry α γ) (context : γ) :
    List Request → List (Except RegistryError α) × γ
  | [] => ([], context)
  | q :: qs =>
    let (answer, next) := r.attempt context q
    let (answers, last) := r.createAll next qs
    (answer :: answers, last)

variable {r : Registry α γ} {t : TypeName} {context : γ} {name : String} {q : Request}

theorem create_of_factory? {entry : FactoryEntry α γ} (h : r.factory? t = some entry) :
    r.create t context name = .ok (entry.make name context) := by
  rw [create, h]

theorem create_of_not_hasFactory (h : ¬ r.hasFactory t) :
    r.create t context name = .error (.unknownType t r.displayName r.knownNames) := by
  rw [hasFactory, Option.not_isSome_iff_eq_none] at h
  rw [create, h]

theorem attempt_fst : (r.attempt context q).1 = (r.create q.type context q.name).map (·.1) := by
  rw [attempt]
  cases r.create q.type context q.name <;> rfl

/-- A factory has no part in what types resolve to. -/
theorem resolve_of_registerFactory {r' : Registry α γ} {source : Option Source}
    {make : Factory α γ} (h : r.registerFactory t source make = .ok r') :
    r'.resolve = r.resolve := by
  obtain ⟨_, rfl⟩ := registerFactory_eq_ok_iff.1 h
  rfl

end Registry

open Registry

variable {m : Manifest} {r s s' : ManifestRegistry} {t : TypeName} {name : String}
  {context : CreationContext} {f : FactoryItem} {fs : List FactoryItem}

theorem CreationContext.childPath_eq (context : CreationContext) (name : String) :
    context.childPath name =
      if context.parent = "" then name else context.parent ++ "." ++ name := by
  simp [childPath]

/-! ### Factories in their turn -/

namespace Manifest

/-- What a factory for a type keeps, as the registry stands. -/
def kept (r : ManifestRegistry) (t : TypeName) : Option TypeName :=
  (r.resolve t).toOption.map (·.implementation)

/-- Registers factories in order, each with what its type resolves to when its turn has come. -/
def registerFactories (r : ManifestRegistry) (fs : List FactoryItem) :
    Except RegistryError ManifestRegistry :=
  fs.foldlM (fun s f => s.apply (f.call s)) r

theorem registerFactories_cons_eq_ok_iff : registerFactories s (f :: fs) = .ok r ↔
    ∃ s', s.apply (f.call s) = .ok s' ∧ registerFactories s' fs = .ok r := by
  rw [registerFactories, List.foldlM_cons, bind_ok_iff]
  rfl

theorem resolve_of_call (h : s.apply (f.call r) = .ok s') : s'.resolve = s.resolve :=
  resolve_of_registerFactory h

theorem call_congr (h : s.resolve = r.resolve) (f : FactoryItem) : f.call s = f.call r := by
  rw [FactoryItem.call, FactoryItem.call, h]

/-- Asking for all resolutions before the first factory is registered comes to the same. -/
theorem applyAll_calls (h : s.resolve = r.resolve) (fs : List FactoryItem) :
    s.applyAll (fs.map (·.call r)) = registerFactories s fs := by
  induction fs generalizing s with
  | nil => rfl
  | cons f fs ih =>
    rw [List.map_cons, applyAll, registerFactories, List.foldlM_cons, List.foldlM_cons,
      ← call_congr h f]
    cases hs : s.apply (f.call s) with
    | error _ => rfl
    | ok s' => exact ih ((resolve_of_call hs).trans h)

theorem resolve_of_registerFactories (h : registerFactories s fs = .ok r) :
    r.resolve = s.resolve := by
  induction fs generalizing s with
  | nil => rw [pure_ok_iff.1 h]
  | cons f fs ih =>
    obtain ⟨s', hs, hrest⟩ := registerFactories_cons_eq_ok_iff.1 h
    rw [ih hrest, resolve_of_call hs]

/-- A registry is built as if every factory asked for the resolution of its type in its turn. -/
theorem build_eq_registerFactories (m : Manifest) :
    m.build = m.emptyRegistry.applyAll m.setupCalls >>= (registerFactories · m.factories) := by
  rw [build]
  cases m.emptyRegistry.applyAll m.setupCalls with
  | error _ => rfl
  | ok r => exact applyAll_calls rfl m.factories

/-- Every factory keeps what its type resolves to. -/
def Recording (r : ManifestRegistry) : Prop :=
  ∀ e ∈ r.factories, e.make = DeclaredInstance.factory e.type (kept r e.type)

theorem Recording.apply (h : Recording s) (hs : s.apply (f.call s) = .ok s') : Recording s' := by
  have same : kept s' = kept s := by
    funext t
    rw [kept, kept, resolve_of_call hs]
  obtain ⟨_, rfl⟩ := registerFactory_eq_ok_iff.1 hs
  intro e he
  rw [same]
  rcases List.mem_append.1 he with he | he
  · exact h e he
  · rw [List.mem_singleton.1 he]
    rfl

theorem Recording.registerFactories (h : Recording s) (hr : registerFactories s fs = .ok r) :
    Recording r := by
  induction fs generalizing s with
  | nil => exact pure_ok_iff.1 hr ▸ h
  | cons f fs ih =>
    obtain ⟨s', hs, hrest⟩ := registerFactories_cons_eq_ok_iff.1 hr
    exact ih (h.apply hs) hrest

theorem recording_of_build (hr : m.build = .ok r) : Recording r := by
  rw [build_eq_registerFactories] at hr
  obtain ⟨r₀, hr₀, hrest⟩ := bind_ok_iff.1 hr
  refine Recording.registerFactories (fun e he => ?_) hrest
  simp [factories_of_setupCalls hr₀] at he

/-! ### Instances -/

/-- The instance of a type that a registry makes at a path. -/
def instanceAt (r : ManifestRegistry) (t : TypeName) (name path : String) : DeclaredInstance :=
  { type := t, name, path, implementation := kept r t }

theorem Recording.create (h : Recording r) (ht : r.hasFactory t) :
    r.create t context name = .ok (instanceAt r t name (context.childPath name),
      context.record (context.childPath name)) := by
  obtain ⟨entry, hentry⟩ := Option.isSome_iff_exists.1 ht
  obtain ⟨hmem, rfl⟩ := Keyed.mem_of_find?_eq_some hentry
  rw [create_of_factory? hentry, h entry hmem]
  rfl

/-- Of its context, an answer shows no more than where it is. -/
theorem Recording.create_congr {context' : CreationContext} (h : Recording r)
    (hparent : context'.parent = context.parent) :
    (r.create t context' name).map (·.1) = (r.create t context name).map (·.1) := by
  by_cases ht : r.hasFactory t
  · rw [h.create ht, h.create ht, CreationContext.childPath, CreationContext.childPath, hparent]
    rfl
  · rw [create_of_not_hasFactory ht, create_of_not_hasFactory ht]

/-- The paths of what was made, in order. -/
def paths (answers : List (Except RegistryError DeclaredInstance)) : List String :=
  answers.filterMap fun answer => answer.toOption.map (·.path)

/-- One request leaves a context where it is and has it record the path of what was made, if
anything was. -/
theorem Recording.attempt (h : Recording r) (context : CreationContext) (q : Request) :
    (r.attempt context q).2.parent = context.parent ∧
    (r.attempt context q).2.created = context.created ++ paths [(r.attempt context q).1] := by
  rw [Registry.attempt]
  by_cases hq : r.hasFactory q.type
  · rw [h.create hq]
    exact ⟨rfl, rfl⟩
  · rw [create_of_not_hasFactory hq]
    exact ⟨rfl, (List.append_nil _).symm⟩

/-- So do many, and each is answered as it would be on its own. -/
theorem Recording.createAll (h : Recording r) (context : CreationContext)
    (requests : List Request) :
    (r.createAll context requests).1 =
      requests.map (fun q => (r.create q.type context q.name).map (·.1)) ∧
    (r.createAll context requests).2.parent = context.parent ∧
    (r.createAll context requests).2.created =
      context.created ++ paths (r.createAll context requests).1 := by
  induction requests generalizing context with
  | nil => exact ⟨rfl, rfl, (List.append_nil _).symm⟩
  | cons q qs ih =>
    obtain ⟨parent, created⟩ := h.attempt context q
    obtain ⟨answers', parent', created'⟩ := ih (r.attempt context q).2
    refine ⟨congrArg₂ List.cons attempt_fst (answers'.trans ?_), parent'.trans parent,
      created'.trans ?_⟩
    · exact List.map_congr_left fun q' _ => h.create_congr parent
    · rw [created, List.append_assoc, paths, paths, ← List.filterMap_append]
      rfl

/-! ### Default instances -/

/-- A default instance is of the implementation that its type resolves to. -/
theorem newDefaultInstance_of_build (h : m.Consistent) (hr : m.build = .ok r) {found : Resolution}
    (hfound : r.resolve t = .ok found) :
    r.newDefaultInstance t = .ok (.ofConstructor found.implementation) := by
  obtain ⟨own, made, hown, hname, hconstruct, hmade⟩ :=
    (reachable_of_build hr).equipped.exists_made hfound
  obtain ⟨_, i, _, item, _, _, rfl⟩ := ((describes_of_build h hr).implementations _ _).1 hown
  have name : TypeName.ofString item.name = found.implementation := by
    rw [← toDecl_name]
    exact hname
  rw [hmade, ← name]
  by_cases hconstructible : item.constructible
  · simpa [TypeItem.implementation, hconstructible, eq_comm] using hconstruct
  · simp [TypeItem.implementation, hconstructible] at hconstruct

/-- CORRECT: a registry that was built from an accepted manifest makes instances of the types that
the manifest lists a factory for, and of no others, whatever is above them. An instance is of the
type and name that were asked for, at its path below the parent, and tells the implementation that
the registry resolves its type to; a default instance is of that implementation. Any requests, made
one after another in one context, are answered as each would be on its own; the context stays where
it is and goes on to record the paths of just what was made, in order. -/
theorem build_creates (h : m.validate = .ok ()) (hr : m.build = .ok r) :
    (∀ t, r.hasFactory t ↔ ∃ f ∈ m.factories, TypeName.ofString f.type = t) ∧
    (∀ t (context : CreationContext) name, r.hasFactory t → ∃ made,
      r.create t context name = .ok (made, context.record made.path) ∧
      made.type = t ∧ made.name = name ∧
      made.path = (if context.parent = "" then name else context.parent ++ "." ++ name) ∧
      made.implementation = (r.resolve t).toOption.map (·.implementation)) ∧
    (∀ t context name, ¬ r.hasFactory t →
      r.create t context name = .error (.unknownType t r.displayName r.knownNames)) ∧
    (∀ t, (∀ found, r.resolve t = .ok found → ∃ made, r.newDefaultInstance t = .ok made ∧
        made.type = found.implementation ∧ made.implementation = some found.implementation ∧
        made.name = "" ∧ made.path = "") ∧
      ∀ e, r.newDefaultInstance t = .error e ↔ r.resolve t = .error e) ∧
    ∀ (context : CreationContext) (requests : List Request),
      (r.createAll context requests).1 =
        requests.map (fun q => (r.create q.type context q.name).map (·.1)) ∧
      (r.createAll context requests).2.parent = context.parent ∧
      (r.createAll context requests).2.created =
        context.created ++ paths (r.createAll context requests).1 := by
  have consistent := validate_eq_ok_iff.1 h
  have recording := recording_of_build hr
  refine ⟨fun t => ?_, fun t context name ht => ?_, fun t context name => create_of_not_hasFactory,
    fun t => ⟨fun found hfound => ?_, fun e => ?_⟩, fun context requests => ?_⟩
  · have factories := (describes_of_build consistent hr).factories t
    rw [hasFactory, Option.isSome_iff_exists]
    constructor
    · rintro ⟨e, he⟩
      obtain ⟨f, hf, hname, _⟩ := (factories e.source).1 ⟨e, he, rfl⟩
      exact ⟨f, hf, hname⟩
    · rintro ⟨f, hf, hname⟩
      obtain ⟨e, he, _⟩ := (factories (f.source.map Source.mk)).2 ⟨f, hf, hname, rfl⟩
      exact ⟨e, he⟩
  · exact ⟨_, recording.create ht, rfl, rfl, context.childPath_eq name, rfl⟩
  · exact ⟨_, newDefaultInstance_of_build consistent hr hfound, rfl, rfl, rfl, rfl⟩
  · exact (reachable_of_build hr).equipped.newDefaultInstance_eq_error_iff
  · exact recording.createAll context requests

/-- `Ring` extends `Circle`, which owns `Disc`; `Signet` extends `Ring`, and has no factory. -/
def signetManifest : Manifest where
  family := { displayName := "shapes", root := "Shape" }
  types :=
    [{ name := "Circle", supertypes := ["Shape"], isPublic := true },
      { name := "Disc", supertypes := ["Circle"], kind := .concrete },
      { name := "Signet", supertypes := ["Ring"], isPublic := true },
      { name := "Ring", supertypes := ["Circle"], isPublic := true, managed := true }]
  implementations := [{ type := "Circle", implementation := "Disc" }]
  factories := [{ type := "Circle" }, { type := " Ring" }]

/-- What the manifest registers before its factories. -/
def signetCalls : List Call :=
  let circle : TypeDecl := { name := ⟨"Circle"⟩, supertypes := [⟨"Shape"⟩] }
  let disc : TypeDecl := { name := ⟨"Disc"⟩, supertypes := [⟨"Circle"⟩], kind := .concrete }
  let signet : TypeDecl := { name := ⟨"Signet"⟩, supertypes := [⟨"Ring"⟩] }
  let ring : TypeDecl := { name := ⟨"Ring"⟩, supertypes := [⟨"Circle"⟩], managed := true }
  [.declareType circle, .declareType disc, .declareType signet, .declareType ring,
    .registerPublicType circle, .registerPublicType signet, .registerPublicType ring,
    .registerImplementation ⟨"Circle"⟩ none ⟨disc, some (.ofConstructor ⟨"Disc"⟩)⟩]

/-- The manifest is built, and both `Ring` and what is below it come to `Disc`. -/
theorem exists_build_signetManifest : ∃ r, signetManifest.build = .ok r ∧
    r.resolve ⟨"Ring"⟩ = .ok ⟨⟨"Circle"⟩, ⟨"Disc"⟩⟩ := by
  have setup : signetManifest.setupCalls = signetCalls := by rfl
  have start : signetManifest.emptyRegistry = empty "shapes" ⟨"Shape"⟩ := by rfl
  have accepted : signetManifest.emptyRegistry.applyAll signetManifest.setupCalls =
      .ok ((empty "shapes" ⟨"Shape"⟩ : ManifestRegistry).run signetCalls) := by
    rw [setup, start]
    cbv
  have inherited : ((empty "shapes" ⟨"Shape"⟩ : ManifestRegistry).run signetCalls).resolve
      ⟨"Ring"⟩ = .ok ⟨⟨"Circle"⟩, ⟨"Disc"⟩⟩ := by cbv
  obtain ⟨r, hr⟩ := (exists_applyAll_factories_iff accepted).2 (by decide)
  refine ⟨r, build_eq_ok_iff.2 ⟨_, accepted, hr⟩, ?_⟩
  rw [resolve_of_registerFactories ((applyAll_calls rfl _).symm.trans hr), inherited]

/-- Two requests go through and one between them does not. -/
def signetRequests : List Request :=
  [⟨⟨"Ring"⟩, "plain"⟩, ⟨⟨"Signet"⟩, "crest"⟩, ⟨⟨"Ring"⟩, "wide"⟩]

/-- A ring is made of what `Circle` owns, under the tray; a signet is not made, though rings are. -/
theorem build_creates_signet : signetManifest.validate = .ok () ∧
    ∃ r, signetManifest.build = .ok r ∧
      (∃ made, r.newDefaultInstance ⟨"Ring"⟩ = .ok made ∧ made.type = ⟨"Disc"⟩) ∧
      (∃ made, r.create ⟨"Ring"⟩ ⟨"tray", []⟩ "plain" = .ok (made, ⟨"tray", ["tray.plain"]⟩) ∧
        made.implementation = some ⟨"Disc"⟩) ∧
      (r.createAll ⟨"tray", []⟩ signetRequests).2 = ⟨"tray", ["tray.plain", "tray.wide"]⟩ := by
  have valid : signetManifest.validate = .ok () := by rfl
  obtain ⟨r, built, inherited⟩ := exists_build_signetManifest
  obtain ⟨factories, creates, refuses, instances, run⟩ := build_creates valid built
  have ring : r.hasFactory ⟨"Ring"⟩ := (factories _).2 ⟨{ type := " Ring" }, by decide, by rfl⟩
  have signet : ¬ r.hasFactory ⟨"Signet"⟩ := by
    rw [factories]
    decide
  obtain ⟨default, hdefault, htype, _⟩ := (instances _).1 _ inherited
  obtain ⟨plain, hplain, _, _, plainPath, hmade⟩ := creates _ ⟨"tray", []⟩ "plain" ring
  obtain ⟨wide, hwide, _, _, widePath, _⟩ := creates _ ⟨"tray", []⟩ "wide" ring
  obtain ⟨answers, parent, created⟩ := run ⟨"tray", []⟩ signetRequests
  have recorded : paths (r.createAll ⟨"tray", []⟩ signetRequests).1 =
      ["tray.plain", "tray.wide"] := by
    rw [answers]
    simp only [signetRequests, List.map_cons, List.map_nil, hplain, hwide, refuses _ _ _ signet]
    simp [paths, Except.map, Except.toOption, plainPath, widePath]
  refine ⟨valid, r, built, ⟨default, hdefault, htype⟩, ⟨plain, ?_, ?_⟩, ?_⟩
  · rw [hplain, plainPath]
    rfl
  · rw [hmade, inherited]
    rfl
  · rw [recorded] at created
    exact congrArg₂ CreationContext.mk parent created

end Manifest

end TypeFamily
