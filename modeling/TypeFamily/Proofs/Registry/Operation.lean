import TypeFamily.Proofs.Graph.Verdict
import TypeFamily.Registry.Call

/-!
What one registration does. Each of the five kinds is told by what it adds (a declaration, a public
type, a factory, an implementation, a view) and by when it is let in; an accepted one is then a
declaration made on the graph with the rest put at the end of its list. All that holds of every
reachable registry is derived from this one step.
-/

namespace TypeFamily.Registry

variable {α γ : Type}

namespace Call

/-- The declaration that a registration makes. -/
@[simp] def decl? : Call α γ → Option TypeDecl
  | declareType d => some d
  | registerPublicType d => some d
  | registerImplementation _ _ i => some i.decl
  | registerFactory .. => none
  | registerInternalView .. => none

/-- The type that a registration makes public. -/
@[simp] def publicType? : Call α γ → Option TypeName
  | registerPublicType d => some d.name
  | _ => none

@[simp] def factory? : Call α γ → Option (FactoryEntry α γ)
  | registerFactory t source make => some ⟨t, source, make⟩
  | _ => none

@[simp] def implementation? : Call α γ → Option (ImplementationEntry α)
  | registerImplementation t source i => some ⟨t, source, i⟩
  | _ => none

@[simp] def view? : Call α γ → Option ViewEntry
  | registerInternalView t source view => some ⟨t, source, view⟩
  | _ => none

end Call

/-- What is asked of a registration before its declaration is made. -/
@[simp] def Admits (r : Registry α γ) : Call α γ → Prop
  | .registerPublicType d => r.graph.reaches d r.root ≠ .doesNotReach
  | .registerFactory t _ _ => r.factory? t = none
  | .registerImplementation t _ i => r.defect? t i = none ∧ r.implementation? t = none
  | _ => True

/-- `g'` is `g` after a declaration, or just `g` if there is none to make. -/
@[simp] def Declared (g : TypeGraph) (d? : Option TypeDecl) (g' : TypeGraph) : Prop :=
  match d? with
  | some d => g.declare d = .ok g'
  | none => g' = g

/-- The registry with what a call adds, over the graph that has its declaration. -/
def adding (r : Registry α γ) (c : Call α γ) (g : TypeGraph) : Registry α γ :=
  { r with
    graph := g
    publicTypes := r.publicTypes ++ c.publicType?.toList.filter (· ∉ r.publicTypes)
    factories := r.factories ++ c.factory?.toList
    implementations := r.implementations ++ c.implementation?.toList
    views := r.views ++ c.view?.toList }

/-! ### Each kind, by the first check that fails -/

variable {r r' : Registry α γ} {c : Call α γ} {d : TypeDecl} {t : TypeName}
  {source : Option Source} {i : Implementation α}

theorem registerPublicType_of_doesNotReach (h : r.graph.reaches d r.root = .doesNotReach) :
    r.registerPublicType d = .error (.notInFamily d.name r.root) := by
  simp only [registerPublicType, h, if_true]
  rfl

theorem registerPublicType_of_ne (h : r.graph.reaches d r.root ≠ .doesNotReach) :
    r.registerPublicType d = (r.graph.declare d).map fun g => { r with
      graph := g
      publicTypes :=
        if d.name ∈ r.publicTypes then r.publicTypes else r.publicTypes ++ [d.name] } := by
  simp only [registerPublicType, h, if_false]
  rfl

theorem registerFactory_of_some {f : FactoryEntry α γ} {make : Factory α γ}
    (h : r.factory? t = some f) : r.registerFactory t source make =
      .error (.duplicateRegistration .factory t f.source) := by
  rw [registerFactory, h]

theorem registerFactory_of_none {make : Factory α γ} (h : r.factory? t = none) :
    r.registerFactory t source make =
      .ok { r with factories := r.factories ++ [⟨t, source, make⟩] } := by
  rw [registerFactory, h]

theorem registerImplementation_of_defect {reason : Defect} (h : r.defect? t i = some reason) :
    r.registerImplementation t source i =
      .error (.invalidImplementation i.decl.name t reason) := by
  simp only [registerImplementation, h]
  rfl

theorem registerImplementation_of_some {e : ImplementationEntry α} (hi : r.defect? t i = none)
    (h : r.implementation? t = some e) : r.registerImplementation t source i =
      .error (.duplicateRegistration .implementation t e.source) := by
  simp only [registerImplementation, hi, h]
  rfl

theorem registerImplementation_of_none (hi : r.defect? t i = none)
    (h : r.implementation? t = none) : r.registerImplementation t source i =
      (r.graph.declare i.decl).map fun g =>
        { r with graph := g, implementations := r.implementations ++ [⟨t, source, i⟩] } := by
  simp only [registerImplementation, hi, h]
  rfl

/-! ### Acceptance -/

theorem bind_ok_iff {ε σ τ : Type} {x : Except ε σ} {k : σ → Except ε τ} {v : τ} :
    x >>= k = .ok v ↔ ∃ u, x = .ok u ∧ k u = .ok v := by
  cases x with
  | error _ => simp [bind, Except.bind]
  | ok u => simp [bind, Except.bind]

theorem map_ok_iff {ε σ τ : Type} {x : Except ε σ} {f : σ → τ} {v : τ} :
    x.map f = .ok v ↔ ∃ u, x = .ok u ∧ v = f u := by
  cases x with
  | error _ => simp [Except.map]
  | ok u => simp [Except.map, eq_comm]

theorem pure_ok_iff {ε σ : Type} {u v : σ} : (pure u : Except ε σ) = .ok v ↔ v = u := by
  simp [pure, Except.pure, eq_comm]

theorem declareType_eq_ok_iff :
    r.declareType d = .ok r' ↔ ∃ g, r.graph.declare d = .ok g ∧ r' = { r with graph := g } := by
  simp only [declareType, bind_ok_iff, pure_ok_iff]

theorem registerPublicType_eq_ok_iff : r.registerPublicType d = .ok r' ↔
    r.graph.reaches d r.root ≠ .doesNotReach ∧ ∃ g, r.graph.declare d = .ok g ∧
      r' = { r with
        graph := g
        publicTypes :=
          if d.name ∈ r.publicTypes then r.publicTypes else r.publicTypes ++ [d.name] } := by
  by_cases h : r.graph.reaches d r.root = .doesNotReach
  · simp [registerPublicType_of_doesNotReach h, h]
  · rw [registerPublicType_of_ne h, map_ok_iff]
    exact (and_iff_right h).symm

theorem registerFactory_eq_ok_iff {make : Factory α γ} :
    r.registerFactory t source make = .ok r' ↔ r.factory? t = none ∧
      r' = { r with factories := r.factories ++ [⟨t, source, make⟩] } := by
  cases hf : r.factory? t with
  | some f => simp [registerFactory_of_some hf]
  | none => simp [registerFactory_of_none hf, eq_comm]

theorem registerImplementation_eq_ok_iff : r.registerImplementation t source i = .ok r' ↔
    (r.defect? t i = none ∧ r.implementation? t = none) ∧ ∃ g, r.graph.declare i.decl = .ok g ∧
      r' = { r with graph := g, implementations := r.implementations ++ [⟨t, source, i⟩] } := by
  cases hd : r.defect? t i with
  | some reason => simp [registerImplementation_of_defect hd]
  | none =>
    cases he : r.implementation? t with
    | some existing => simp [registerImplementation_of_some hd he]
    | none =>
      rw [registerImplementation_of_none hd he, map_ok_iff]
      exact (and_iff_right ⟨rfl, rfl⟩).symm

/-- The step: a registration is accepted exactly when it is let in and its declaration is, and then
adds what it is there to add. -/
theorem apply_eq_ok_iff : r.apply c = .ok r' ↔
    r.Admits c ∧ ∃ g, Declared r.graph c.decl? g ∧ r' = r.adding c g := by
  cases c with
  | declareType d =>
    rw [apply, declareType_eq_ok_iff]
    simp [adding]
  | registerPublicType d =>
    have hnew : r.publicTypes ++ [d.name].filter (· ∉ r.publicTypes) =
        if d.name ∈ r.publicTypes then r.publicTypes else r.publicTypes ++ [d.name] := by
      by_cases h : d.name ∈ r.publicTypes <;> simp [h]
    rw [apply, registerPublicType_eq_ok_iff, ← hnew]
    simp [adding]
  | registerFactory t source make =>
    rw [apply, registerFactory_eq_ok_iff]
    simp [adding]
  | registerImplementation t source i =>
    rw [apply, registerImplementation_eq_ok_iff]
    simp [adding]
  | registerInternalView t source view =>
    simp [apply, registerInternalView, adding, eq_comm]

end TypeFamily.Registry
