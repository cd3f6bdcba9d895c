import TypeFamily.Proofs.Registry.Soundness

/-!
Default instances. Whatever a registry resolves a type to was registered with a constructor, so the
type has a default instance exactly if it resolves; the error for a constructor that is missing is
there for no registry that registrations can lead to.
-/

namespace TypeFamily.Registry

variable {α γ : Type} {r r' : Registry α γ} {c : Call α γ} {calls : List (Call α γ)} {t : TypeName}
  {found : Resolution} {e : RegistryError} {own : ImplementationEntry α} {made : α}

/-! ### What is at hand -/

/-- Every public type is declared. -/
def PublicDeclared (r : Registry α γ) : Prop :=
  ∀ n ∈ r.publicTypes, r.graph.contains n

/-- Every registered implementation has a constructor. -/
def Constructible (r : Registry α γ) : Prop :=
  ∀ own ∈ r.implementations, own.implementation.hasConstructor

/-- The state of a registry: the root is a bare interface, public types are declared, and each
implementation is a concrete type with a constructor, declared as it was registered. -/
structure Equipped (r : Registry α γ) : Prop where
  root : r.graph.find? r.root =
    some { name := r.root, supertypes := [], kind := .interface, managed := false }
  publicTypes : r.PublicDeclared
  constructible : r.Constructible
  concrete : ∀ own ∈ r.implementations, own.implementation.decl.kind = .concrete
  declared : ∀ own ∈ r.implementations, r.graph.find? own.name = some own.implementation.decl

/-- A call that makes a type public declares it. -/
theorem decl?_of_publicType? {n : TypeName} (h : c.publicType? = some n) :
    ∃ d, c.decl? = some d ∧ d.name = n := by
  cases c with
  | registerPublicType d => exact ⟨d, rfl, Option.some.inj h⟩
  | _ => simp at h

theorem PublicDeclared.apply (hr : r.PublicDeclared) (h : r.apply c = .ok r') :
    r'.PublicDeclared := by
  obtain ⟨_, g, hg, rfl⟩ := apply_eq_ok_iff.1 h
  intro n hn
  rcases List.mem_append.1 hn with hold | hnew
  · obtain ⟨d, hd⟩ := TypeGraph.contains_iff.1 (hr n hold)
    exact TypeGraph.contains_iff.2 ⟨d, within_of_declared hg n d hd⟩
  · obtain ⟨d, hd, rfl⟩ := decl?_of_publicType? (by simpa using (List.mem_filter.1 hnew).1)
    rw [hd] at hg
    exact TypeGraph.contains_iff.2 ⟨d, TypeGraph.find?_self_of_declare hg⟩

/-- An implementation is let in only with a constructor. -/
theorem Constructible.apply (hr : r.Constructible) (h : r.apply c = .ok r') :
    r'.Constructible := by
  obtain ⟨hadmits, g, _, rfl⟩ := apply_eq_ok_iff.1 h
  intro own hown
  rcases List.mem_append.1 hown with hold | hnew
  · exact hr own hold
  · obtain ⟨hdefect, _⟩ := hadmits.implementation? (by simpa using hnew)
    exact (defect?_eq_none_iff.1 hdefect).2.2

/-- Whatever registrations are made, and in whatever order, the registry is equipped. -/
theorem equipped_run (displayName : String) (root : TypeName) (calls : List (Call α γ)) :
    ((empty displayName root).run calls).Equipped := by
  have wf : ((empty displayName root).run calls).WellFormed :=
    (wellFormed_empty displayName root).run calls
  refine ⟨wf.root_declared, ?_, ?_, fun own hown => ?_, fun own hown => ?_⟩
  · exact run_invariant (fun hc h => h.apply hc) fun n hn => by simp [empty] at hn
  · exact run_invariant (fun hc h => h.apply hc) fun own hown => by simp [empty] at hown
  · exact of_decide_eq_true (wf.implementation_declared own hown).2
  · exact (wf.implementation_declared own hown).1

theorem Reachable.equipped (hr : r.Reachable) : r.Equipped := by
  obtain ⟨displayName, root, calls, rfl⟩ := hr
  exact equipped_run displayName root calls

/-! ### The instance that is made -/

theorem newDefaultInstance_of_error (h : r.resolve t = .error e) :
    r.newDefaultInstance t = .error e := by
  rw [newDefaultInstance, h]
  rfl

theorem newDefaultInstance_of_ok (h : r.resolve t = .ok found)
    (hown : r.implementation? found.owner = some own)
    (hmade : own.implementation.construct? = some made) : r.newDefaultInstance t = .ok made := by
  have constructor : (r.implementation? found.owner).bind (·.implementation.construct?) =
      some made := by
    rw [hown, Option.bind_some, hmade]
  simp only [newDefaultInstance, h, bind, Except.bind, constructor]
  rfl

/-- Resolution has no fault to find with what it resolves to. -/
theorem resolve_ne_invalidImplementation {implementation type : TypeName} {reason : Defect} :
    r.resolve t ≠ .error (.invalidImplementation implementation type reason) := by
  rw [resolve]
  cases r.implementation? t with
  | some own => simp
  | none =>
    cases r.candidates t with
    | nil => simp
    | cons only others => cases others <;> simp

/-- A type that resolves in an equipped registry has a default instance, which the constructor of
its owner's implementation makes. -/
theorem Equipped.exists_made (hr : r.Equipped) (h : r.resolve t = .ok found) :
    ∃ own made, r.implementation? found.owner = some own ∧ own.name = found.implementation ∧
      own.implementation.construct? = some made ∧ r.newDefaultInstance t = .ok made := by
  obtain ⟨own, hown, rfl, _⟩ := exists_entry_of_resolve h
  have constructor := hr.constructible own (Keyed.mem_of_find?_eq_some hown).1
  obtain ⟨made, hmade⟩ := Option.isSome_iff_exists.1 constructor
  exact ⟨own, made, hown, rfl, hmade, newDefaultInstance_of_ok h hown hmade⟩

/-- In an equipped registry a default instance fails for want of an implementation only. -/
theorem Equipped.newDefaultInstance_eq_error_iff (hr : r.Equipped) :
    r.newDefaultInstance t = .error e ↔ r.resolve t = .error e := by
  cases hresolve : r.resolve t with
  | error e' => simp [newDefaultInstance_of_error hresolve]
  | ok found =>
    obtain ⟨_, made, _, _, _, hmade⟩ := hr.exists_made hresolve
    simp [hmade]

/-- The implementation that a run has for a type was registered for it by an accepted call. -/
theorem exists_call_of_implementation? {displayName : String} {root : TypeName}
    (h : ((empty displayName root).run calls).implementation? t = some own) : ∃ before after,
      calls = before ++ .registerImplementation t own.source own.implementation :: after ∧
        ((empty displayName root).run before).accepts
          (.registerImplementation t own.source own.implementation) := by
  obtain ⟨hmem, rfl⟩ := Keyed.mem_of_find?_eq_some h
  exact (exists_call_of_mem_implementations hmem).resolve_left (by simp [empty])

/-- CORRECT: after any registrations the root is a bare interface, public types are declared, and
implementations are concrete, constructible and declared as they were registered. A type then has a
default instance exactly if it resolves, it fails as resolution does otherwise, and the instance is
what the constructor makes that was registered with the owner's implementation. -/
theorem newDefaultInstance_run (displayName : String) (root : TypeName)
    (calls : List (Call α γ)) :
    let r : Registry α γ := (empty displayName root).run calls
    r.root = root ∧ r.Equipped ∧ ∀ t,
      (∀ e, r.newDefaultInstance t = .error e ↔ r.resolve t = .error e) ∧
      ((∃ made, r.newDefaultInstance t = .ok made) ↔ ∃ found, r.resolve t = .ok found) ∧
      (∀ found, r.resolve t = .ok found → ∃ before source i made after,
        calls = before ++ .registerImplementation found.owner source i :: after ∧
        ((empty displayName root).run before).accepts
          (.registerImplementation found.owner source i) ∧
        r.implementation? found.owner = some ⟨found.owner, source, i⟩ ∧
        i.decl.name = found.implementation ∧ i.construct? = some made ∧
        r.newDefaultInstance t = .ok made) ∧
      ∀ implementation type,
        r.newDefaultInstance t ≠
          .error (.invalidImplementation implementation type .noDefaultConstructor) := by
  intro r
  have equipped : r.Equipped := equipped_run displayName root calls
  refine ⟨root_run _ calls, equipped, fun t => ⟨fun e => ?_, ?_, fun found h => ?_, ?_⟩⟩
  · exact equipped.newDefaultInstance_eq_error_iff
  · cases hresolve : r.resolve t with
    | error e => simp [newDefaultInstance_of_error hresolve]
    | ok found =>
      obtain ⟨_, made, _, _, _, hmade⟩ := equipped.exists_made hresolve
      exact ⟨fun _ => ⟨found, rfl⟩, fun _ => ⟨made, hmade⟩⟩
  · obtain ⟨own, made, hown, hname, hconstruct, hmade⟩ := equipped.exists_made h
    obtain ⟨before, after, hcalls, hacc⟩ := exists_call_of_implementation? hown
    obtain ⟨type, source, i⟩ := own
    obtain rfl : type = found.owner := (Keyed.mem_of_find?_eq_some hown).2
    exact ⟨before, source, i, made, after, hcalls, hacc, hown, hname, hconstruct, hmade⟩
  · intro implementation type h
    exact resolve_ne_invalidImplementation (equipped.newDefaultInstance_eq_error_iff.1 h)

/-- An implementation of `Ring`, with a constructor that makes its name. -/
def namedBand : Implementation String :=
  ⟨{ name := ⟨"Band"⟩, supertypes := [⟨"Ring"⟩], kind := .concrete }, some "band"⟩

/-- Declarations collide with the root and, before and after it is made public, with the
implementation of `Ring`, which is registered before `Ring` is declared. -/
def collidingCalls : List (Call String Unit) :=
  [.declareType { name := ⟨"Shape"⟩, kind := .concrete },
    .registerImplementation ⟨"Ring"⟩ none namedBand,
    .declareType { name := ⟨"Band"⟩ },
    .registerPublicType namedBand.decl,
    .registerPublicType { name := ⟨"Band"⟩, kind := .abstract },
    .registerPublicType { name := ⟨"Ring"⟩, supertypes := [⟨"Shape"⟩] },
    .registerPublicType { name := ⟨"Seal"⟩, supertypes := [⟨"Ring"⟩] }]

/-- `Seal` inherits the implementation of `Ring`, and nothing is registered above `Shape`. -/
theorem newDefaultInstance_run_colliding :
    ((empty "shapes" ⟨"Shape"⟩).run collidingCalls).Equipped ∧
      ((empty "shapes" ⟨"Shape"⟩).run collidingCalls).newDefaultInstance ⟨"Seal"⟩ = .ok "band" ∧
      ((empty "shapes" ⟨"Shape"⟩).run collidingCalls).newDefaultInstance ⟨"Shape"⟩ =
        .error (.noDefaultImplementation ⟨"Shape"⟩) := by
  have inherited : ((empty "shapes" ⟨"Shape"⟩).run collidingCalls).resolve ⟨"Seal"⟩ =
      .ok ⟨⟨"Ring"⟩, ⟨"Band"⟩⟩ := by cbv
  have missing : ((empty "shapes" ⟨"Shape"⟩).run collidingCalls).resolve ⟨"Shape"⟩ =
      .error (.noDefaultImplementation ⟨"Shape"⟩) := by cbv
  have accepted : ((empty "shapes" ⟨"Shape"⟩).run (collidingCalls.take 1)).accepts
      (.registerImplementation ⟨"Ring"⟩ none namedBand) := by cbv
  have ring : ((empty "shapes" ⟨"Shape"⟩).run collidingCalls).implementation? ⟨"Ring"⟩ =
      some ⟨⟨"Ring"⟩, none, namedBand⟩ := implementation?_run_of_accepts accepted
  obtain ⟨_, equipped, instances⟩ := newDefaultInstance_run "shapes" ⟨"Shape"⟩ collidingCalls
  obtain ⟨before, source, i, made, after, _, _, hown, _, hconstruct, hmade⟩ :=
    (instances ⟨"Seal"⟩).2.2.1 _ inherited
  refine ⟨equipped, ?_, ((instances ⟨"Shape"⟩).1 _).2 missing⟩
  obtain rfl : i = namedBand :=
    (ImplementationEntry.mk.inj (Option.some.inj (hown.symm.trans ring))).2.2
  obtain rfl : made = "band" := (Option.some.inj hconstruct).symm
  exact hmade

end TypeFamily.Registry
