import TypeFamily.Proofs.Registry.Content

/-!
Registrations carried out on a registry in place, one change after the other. A change that is made
stays made, whatever fails after it; but each registration checks all that it has to check before
its first change, so one that is refused leaves the registry as it was. A run can therefore be told
without the calls that were refused in it, and what was registered first for a type is what stays
registered for it.
-/

namespace TypeFamily.Registry

variable {α γ : Type}

/-- Work on a registry that may fail on the way; what was changed before that stays changed. -/
abbrev InPlace (α γ σ : Type) : Type :=
  EStateM RegistryError (Registry α γ) σ

namespace InPlace

/-! ### Carrying out -/

/-- Puts a declaration into the graph, unless it stands there or must not. -/
def declare (d : TypeDecl) : InPlace α γ Unit := do
  let r ← get
  match r.graph.find? d.name with
  | some existing =>
    if existing ≠ d then throw (.conflictingDeclaration d.name existing d)
  | none =>
    if let some supertype := d.supertypes.find? (r.graph.isAssignable d.name) then
      throw (.cyclicHierarchy d.name supertype)
    modify fun r => { r with graph := ⟨r.graph.decls ++ [d]⟩ }

/-- Declares a type and then puts it among the public types. -/
def registerPublicType (d : TypeDecl) : InPlace α γ Unit := do
  let r ← get
  if r.graph.reaches d r.root = .doesNotReach then
    throw (.notInFamily d.name r.root)
  declare d
  modify fun r => { r with
    publicTypes :=
      if d.name ∈ r.publicTypes then r.publicTypes else r.publicTypes ++ [d.name] }

/-- Puts a factory among the factories, unless its type has one. -/
def registerFactory (t : TypeName) (source : Option Source) (make : Factory α γ) :
    InPlace α γ Unit := do
  let r ← get
  if let some existing := r.factory? t then
    throw (.duplicateRegistration .factory t existing.source)
  modify fun r => { r with factories := r.factories ++ [⟨t, source, make⟩] }

/-- Declares an implementation and then puts it among the implementations, unless something is
known to be wrong with it or its type has one. -/
def registerImplementation (t : TypeName) (source : Option Source) (i : Implementation α) :
    InPlace α γ Unit := do
  let r ← get
  if let some reason := r.defect? t i then
    throw (.invalidImplementation i.decl.name t reason)
  if let some existing := r.implementation? t then
    throw (.duplicateRegistration .implementation t existing.source)
  declare i.decl
  modify fun r => { r with implementations := r.implementations ++ [⟨t, source, i⟩] }

/-- Puts a view among the views. -/
def registerInternalView (t : TypeName) (source : Option Source) (view : TypeName) :
    InPlace α γ Unit :=
  modify fun r => { r with views := r.views ++ [⟨t, source, view⟩] }

/-- Makes one registration. -/
def perform : Call α γ → InPlace α γ Unit
  | .declareType d => declare d
  | .registerPublicType d => registerPublicType d
  | .registerFactory t source make => registerFactory t source make
  | .registerImplementation t source i => registerImplementation t source i
  | .registerInternalView t source view => registerInternalView t source view

/-- The registry that work leaves behind, whether it fails or not. -/
def left : EStateM.Result RegistryError (Registry α γ) Unit → Registry α γ
  | .ok _ r => r
  | .error _ r => r

/-- The registry after a list of registrations, each made on what those before it left behind. -/
def performAll (r : Registry α γ) (calls : List (Call α γ)) : Registry α γ :=
  calls.foldl (fun r c => left ((perform c).run r)) r

/-- Those of a list of registrations that are accepted when their turn comes. -/
def accepted (r : Registry α γ) : List (Call α γ) → List (Call α γ)
  | [] => []
  | c :: calls =>
    match (perform c).run r with
    | .ok _ r' => c :: accepted r' calls
    | .error _ r' => accepted r' calls

/-! ### Refusal -/

/-- The outcome of work that changes a registry as a whole or not at all. -/
def wholly (r : Registry α γ) :
    Except RegistryError (Registry α γ) → EStateM.Result RegistryError (Registry α γ) Unit
  | .ok r' => .ok () r'
  | .error e => .error e r

variable {r s : Registry α γ} {c : Call α γ} {calls : List (Call α γ)} {d : TypeDecl}
  {t : TypeName} {source : Option Source} {i : Implementation α} {make : Factory α γ}

theorem run_declare : (declare d).run r = wholly r (r.declareType d) := by
  rw [declareType]
  cases hf : r.graph.find? d.name with
  | some existing =>
    rw [TypeGraph.declare_of_find?_eq_some hf]
    by_cases h : existing = d
    · simp [declare, hf, h, wholly]
    · simp [declare, hf, h, wholly]
  | none =>
    rw [TypeGraph.declare_of_find?_eq_none hf]
    cases hs : d.supertypes.find? (r.graph.isAssignable d.name) with
    | some supertype => simp [declare, hf, hs, wholly]
    | none => simp [declare, hf, hs, wholly]

/-- What is to follow a declaration is done or, with the declaration, left undone. -/
theorem run_declare_modify (f : Registry α γ → Registry α γ) :
    (declare d >>= fun _ => modify f).run r =
      wholly r ((r.graph.declare d).map fun g => f { r with graph := g }) := by
  rw [EStateM.run_bind, run_declare, declareType]
  cases r.graph.declare d with
  | ok g => rfl
  | error e => rfl

theorem run_registerPublicType :
    (registerPublicType d).run r = wholly r (r.registerPublicType d) := by
  rw [registerPublicType, EStateM.run_bind, EStateM.run_get]
  by_cases hv : r.graph.reaches d r.root = .doesNotReach
  · rw [registerPublicType_of_doesNotReach hv]
    simp [hv, wholly]
  · rw [registerPublicType_of_ne hv]
    simp only [hv, if_false]
    exact run_declare_modify _

theorem run_registerFactory :
    (registerFactory t source make).run r = wholly r (r.registerFactory t source make) := by
  cases hf : r.factory? t with
  | some existing =>
    rw [registerFactory_of_some hf]
    simp [registerFactory, hf, wholly]
  | none =>
    rw [registerFactory_of_none hf]
    simp [registerFactory, hf, wholly]

theorem run_registerImplementation :
    (registerImplementation t source i).run r =
      wholly r (r.registerImplementation t source i) := by
  rw [registerImplementation, EStateM.run_bind, EStateM.run_get]
  cases hd : r.defect? t i with
  | some reason =>
    rw [registerImplementation_of_defect hd]
    simp [hd, wholly]
  | none =>
    cases he : r.implementation? t with
    | some existing =>
      rw [registerImplementation_of_some hd he]
      simp [hd, he, wholly]
    | none =>
      rw [registerImplementation_of_none hd he]
      simp only [hd, he]
      exact run_declare_modify _

/-- The step: a registration is made as a whole, or is refused and changes nothing. -/
theorem run_perform (c : Call α γ) (r : Registry α γ) :
    (perform c).run r = wholly r (r.apply c) := by
  cases c with
  | declareType d => exact run_declare
  | registerPublicType d => exact run_registerPublicType
  | registerFactory t source make => exact run_registerFactory
  | registerImplementation t source i => exact run_registerImplementation
  | registerInternalView t source view => rfl

theorem left_perform (c : Call α γ) (r : Registry α γ) : left ((perform c).run r) = r.step c := by
  rw [run_perform, step]
  cases r.apply c with
  | ok r' => rfl
  | error e => rfl

theorem run_perform_eq_ok_iff : (perform c).run r = .ok () s ↔ r.apply c = .ok s := by
  rw [run_perform]
  cases r.apply c with
  | ok r' => simp [wholly]
  | error e => simp [wholly]

/-- The run: registrations carried out in place lead where accepting or passing over each leads. -/
theorem performAll_eq_run (r : Registry α γ) (calls : List (Call α γ)) :
    performAll r calls = r.run calls := by
  rw [performAll, run]
  simp only [left_perform]

/-- A call is kept exactly if the registry accepts it. -/
theorem accepted_cons (r : Registry α γ) (c : Call α γ) (calls : List (Call α γ)) :
    accepted r (c :: calls) =
      match r.apply c with
      | .ok r' => c :: accepted r' calls
      | .error _ => accepted r calls := by
  rw [accepted, run_perform]
  cases r.apply c with
  | ok r' => rfl
  | error e => rfl

/-- Without the calls that are refused in it, a run is accepted throughout and leads to the same
registry. -/
theorem applyAll_accepted (r : Registry α γ) (calls : List (Call α γ)) :
    r.applyAll (accepted r calls) = .ok (r.run calls) := by
  induction calls generalizing r with
  | nil => rfl
  | cons c calls ih =>
    rw [accepted_cons, run_cons, step]
    cases hc : r.apply c with
    | ok r' => exact applyAll_cons_eq_ok_iff.2 ⟨r', hc, ih r'⟩
    | error e => exact ih r

theorem accepted_sublist (r : Registry α γ) (calls : List (Call α γ)) :
    (accepted r calls).Sublist calls := by
  induction calls generalizing r with
  | nil => exact .slnil
  | cons c calls ih =>
    rw [accepted_cons]
    cases r.apply c with
    | ok r' => exact (ih r').cons_cons c
    | error e => exact (ih r).cons c

theorem accepted_of_applyAll (h : r.applyAll calls = .ok s) : accepted r calls = calls := by
  induction calls generalizing r with
  | nil => rfl
  | cons c calls ih =>
    obtain ⟨r', hc, hrest⟩ := applyAll_cons_eq_ok_iff.1 h
    rw [accepted_cons, hc]
    exact congrArg (c :: ·) (ih hrest)

/-! ### The first registration -/

/-- The factory of `t` in `r` is `make`, registered by `source`, and every other is refused. -/
structure KeepsFactory (r : Registry α γ) (t : TypeName) (source : Option Source)
    (make : Factory α γ) : Prop where
  found : r.factory? t = some ⟨t, source, make⟩
  refused : ∀ source' make', (perform (.registerFactory t source' make')).run r =
    .error (.duplicateRegistration .factory t source) r

/-- The implementation of `t` in `r` is `i`, registered by `source`, and every other is refused, for
that reason if there is nothing wrong with it. -/
structure KeepsImplementation (r : Registry α γ) (t : TypeName) (source : Option Source)
    (i : Implementation α) : Prop where
  found : r.implementation? t = some ⟨t, source, i⟩
  refused : ∀ source' i', ∃ e,
    (perform (.registerImplementation t source' i')).run r = .error e r
  duplicate : ∀ source' i', r.graph.reaches i'.decl r.root ≠ .doesNotReach →
    r.graph.reaches i'.decl t ≠ .doesNotReach → i'.decl.isConcrete → i'.hasConstructor →
    (perform (.registerImplementation t source' i')).run r =
      .error (.duplicateRegistration .implementation t source) r

theorem keepsFactory_of_factory? (h : r.factory? t = some ⟨t, source, make⟩) :
    KeepsFactory r t source make where
  found := h
  refused source' make' := by
    rw [run_perform, apply, registerFactory_of_some h]
    rfl

theorem keepsImplementation_of_implementation? (h : r.implementation? t = some ⟨t, source, i⟩) :
    KeepsImplementation r t source i where
  found := h
  refused source' i' := by
    rw [run_perform, apply]
    cases hd : r.defect? t i' with
    | some reason => exact ⟨_, by rw [registerImplementation_of_defect hd]; rfl⟩
    | none => exact ⟨_, by rw [registerImplementation_of_some hd h]; rfl⟩
  duplicate source' i' hroot htype hconcrete hconstructor := by
    have sound := defect?_eq_none_iff.2 ⟨⟨hroot, htype⟩, hconcrete, hconstructor⟩
    rw [run_perform, apply, registerImplementation_of_some sound h]
    rfl

/-- CORRECT: a registration that is refused leaves the registry as it was, so a run without those
that are refused in it is accepted throughout and leads to the same registry; and the factory or
implementation that is first accepted for a type stays the one for it, every later one being
refused. -/
theorem performAll_accepted (displayName : String) (root : TypeName) (calls : List (Call α γ)) :
    let start : Registry α γ := empty displayName root
    (∀ (r s : Registry α γ) c e, (perform c).run r = .error e s → s = r) ∧
    performAll start calls = start.run calls ∧
    performAll start (accepted start calls) = performAll start calls ∧
    start.applyAll (accepted start calls) = .ok (performAll start calls) ∧
    accepted start (accepted start calls) = accepted start calls ∧
    (∀ before t source make after s, calls = before ++ .registerFactory t source make :: after →
      (perform (.registerFactory t source make)).run (performAll start before) = .ok () s →
      KeepsFactory (performAll start calls) t source make) ∧
    ∀ before t source i after s, calls = before ++ .registerImplementation t source i :: after →
      (perform (.registerImplementation t source i)).run (performAll start before) = .ok () s →
      KeepsImplementation (performAll start calls) t source i := by
  intro start
  have hrun := performAll_eq_run start calls
  have haccepted := applyAll_accepted start calls
  -- what comes after an accepted call is a run on the registry that the call led to
  have after_accepted : ∀ before c after s, (perform c).run (performAll start before) = .ok () s →
      performAll start (before ++ c :: after) = s.run after := by
    intro before c after s hc
    rw [performAll_eq_run] at hc ⊢
    rw [run_append, run_cons, step, run_perform_eq_ok_iff.1 hc]
  refine ⟨?_, hrun, ?_, hrun ▸ haccepted, accepted_of_applyAll haccepted, ?_, ?_⟩
  · intro r s c e h
    rw [run_perform] at h
    cases hc : r.apply c with
    | ok r' => simp [hc, wholly] at h
    | error e' =>
      rw [hc] at h
      exact (EStateM.Result.error.inj h).2.symm
  · rw [performAll_eq_run, run_of_applyAll haccepted, hrun]
  · rintro before t source make after s rfl hc
    have found := factory?_of_apply (run_perform_eq_ok_iff.1 hc)
    rw [after_accepted before _ after s hc]
    exact keepsFactory_of_factory? (factory?_run found after)
  · rintro before t source i after s rfl hc
    have found := implementation?_of_apply (run_perform_eq_ok_iff.1 hc)
    rw [after_accepted before _ after s hc]
    exact keepsImplementation_of_implementation? (implementation?_run found after)

/-- An implementation of `Ring`. -/
def band : Implementation Unit :=
  ⟨{ name := ⟨"Band"⟩, supertypes := [⟨"Ring"⟩], kind := .concrete }, some ()⟩

/-- `Ring` is refused as a public type only when its declaration is made, since it extends itself;
its factory and its implementation are registered twice. -/
def refusedCalls : List (Call Unit Unit) :=
  [.registerFactory ⟨"Ring"⟩ (some ⟨"core"⟩) fun _ context => ((), context),
    .registerPublicType { name := ⟨"Ring"⟩, supertypes := [⟨"Ring"⟩] },
    .registerFactory ⟨"Ring"⟩ (some ⟨"plugin"⟩) fun _ context => ((), context),
    .registerImplementation ⟨"Ring"⟩ none band,
    .registerImplementation ⟨"Ring"⟩ (some ⟨"plugin"⟩) band]

/-- Two of the calls remain, and what they registered is kept. -/
theorem performAll_accepted_ring :
    let start : Registry Unit Unit := empty "shapes" ⟨"Shape"⟩
    (accepted start refusedCalls).length = 2 ∧
      start.applyAll (accepted start refusedCalls) = .ok (performAll start refusedCalls) ∧
      KeepsFactory (performAll start refusedCalls) ⟨"Ring"⟩ (some ⟨"core"⟩)
        (fun _ context => ((), context)) ∧
      KeepsImplementation (performAll start refusedCalls) ⟨"Ring"⟩ none band := by
  have two : (accepted (empty "shapes" ⟨"Shape"⟩) refusedCalls).length = 2 := by
    simp only [refusedCalls, accepted_cons]
    cbv
  have made : (perform (.registerImplementation ⟨"Ring"⟩ none band)).run
      (performAll (empty "shapes" ⟨"Shape"⟩) (refusedCalls.take 3)) =
        .ok () (((empty "shapes" ⟨"Shape"⟩).run (refusedCalls.take 3)).step
          (.registerImplementation ⟨"Ring"⟩ none band)) := by
    rw [performAll_eq_run, run_perform_eq_ok_iff]
    exact accepts_iff.1 (by cbv)
  obtain ⟨_, _, _, remaining, _, factory, implementation⟩ :=
    performAll_accepted "shapes" ⟨"Shape"⟩ refusedCalls
  exact ⟨two, remaining, factory [] _ _ _ _ _ rfl rfl,
    implementation (refusedCalls.take 3) _ _ _ _ _ rfl made⟩

end InPlace

end TypeFamily.Registry
