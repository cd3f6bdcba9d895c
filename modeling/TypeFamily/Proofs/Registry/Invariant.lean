import TypeFamily.Proofs.Keyed
import TypeFamily.Proofs.Registry.Operation

/-!
What holds of every registry that registrations can build. The root stays declared as it was, no
name is above itself, no list has two entries of one key, and each registered implementation is a
concrete type that stands in the graph as it was registered.
-/

namespace TypeFamily

variable {α γ : Type}

namespace TypeGraph

variable {g g' : TypeGraph} {d : TypeDecl}

theorem nodup_of_declare (hg : (g.decls.map (·.name)).Nodup) (h : g.declare d = .ok g') :
    (g'.decls.map (·.name)).Nodup := by
  rcases declare_eq_ok_iff.1 h with ⟨_, rfl⟩ | ⟨hd, _, rfl⟩
  · exact hg
  · refine Keyed.nodup_append hg (by simp) fun y hy => ?_
    rw [List.mem_singleton.1 hy]
    exact hd

end TypeGraph

namespace Registry

/-! ### One registration -/

variable {r r' : Registry α γ} {c : Call α γ} {calls : List (Call α γ)} {g g' : TypeGraph}
  {t : TypeName} {i : Implementation α} {e : ImplementationEntry α}

/-- What holds of a graph, and of it after any declaration, holds of it after a call. -/
theorem of_declared {P : TypeGraph → Prop} {d? : Option TypeDecl} (h : Declared g d? g')
    (same : P g) (declared : ∀ d, g.declare d = .ok g' → P g') : P g' := by
  cases d? with
  | none => exact h ▸ same
  | some d => exact declared d h

theorem within_of_declared {d? : Option TypeDecl} (h : Declared g d? g') : g.Within g' :=
  of_declared h (TypeGraph.within_refl g) fun _ => TypeGraph.within_of_declare

/-- The registrations that leave no defect to be known of. -/
theorem defect?_eq_none_iff : r.defect? t i = none ↔
    (r.graph.reaches i.decl r.root ≠ .doesNotReach ∧ r.graph.reaches i.decl t ≠ .doesNotReach) ∧
      i.decl.isConcrete ∧ i.hasConstructor := by
  rw [defect?]
  by_cases h1 : r.graph.reaches i.decl r.root = .doesNotReach
  · simp [h1]
  by_cases h2 : r.graph.reaches i.decl t = .doesNotReach
  · simp [h1, h2]
  by_cases h3 : i.decl.isConcrete <;> by_cases h4 : i.hasConstructor <;> simp [h1, h2, h3, h4]

/-- What a registration brings in is new to the list it joins. -/
theorem Admits.factory? (h : r.Admits c) {e : FactoryEntry α γ} (he : c.factory? = some e) :
    r.factory? e.type = none := by
  cases c with
  | registerFactory t source make => exact Option.some.inj he ▸ h
  | _ => simp at he

/-- An implementation is checked against the graph before its declaration is made. -/
theorem Admits.implementation? (h : r.Admits c) {e : ImplementationEntry α}
    (he : c.implementation? = some e) : r.defect? e.type e.implementation = none ∧
      r.implementation? e.type = none ∧ c.decl? = some e.implementation.decl := by
  cases c with
  | registerImplementation t source i =>
    obtain rfl := Option.some.inj he
    exact ⟨h.1, h.2, rfl⟩
  | _ => simp at he

/-- The invariant of registration. -/
structure WellFormed (r : Registry α γ) : Prop where
  root_declared : r.graph.find? r.root = some { name := r.root }
  acyclic : r.graph.Acyclic
  decls_nodup : (r.graph.decls.map (·.name)).Nodup
  publicTypes_nodup : r.publicTypes.Nodup
  factories_nodup : (r.factories.map (·.type)).Nodup
  implementations_nodup : (r.implementations.map (·.type)).Nodup
  implementation_declared : ∀ e ∈ r.implementations,
    r.graph.find? e.name = some e.implementation.decl ∧ e.implementation.decl.isConcrete

theorem wellFormed_empty (displayName : String) (root : TypeName) :
    (empty displayName root : Registry α γ).WellFormed where
  root_declared := by rw [empty, TypeGraph.find?_rooted, if_pos rfl]
  acyclic := TypeGraph.acyclic_rooted root
  decls_nodup := by simp [empty, TypeGraph.rooted]
  publicTypes_nodup := List.nodup_nil
  factories_nodup := List.nodup_nil
  implementations_nodup := List.nodup_nil
  implementation_declared := by simp [empty]

/-- One accepted registration keeps a registry well formed. -/
theorem WellFormed.apply (hr : r.WellFormed) (h : r.apply c = .ok r') : r'.WellFormed := by
  obtain ⟨hadmits, g, hg, rfl⟩ := apply_eq_ok_iff.1 h
  have hw : r.graph.Within g := within_of_declared hg
  have acyclic : g.Acyclic := of_declared hg hr.acyclic fun _ => hr.acyclic.declare
  have decls_nodup : (g.decls.map (·.name)).Nodup :=
    of_declared (P := fun g => (g.decls.map (·.name)).Nodup) hg hr.decls_nodup fun _ =>
      TypeGraph.nodup_of_declare hr.decls_nodup
  refine ⟨hw _ _ hr.root_declared, acyclic, decls_nodup, ?_, ?_, ?_, ?_⟩
  · refine List.Nodup.append hr.publicTypes_nodup ?_ ?_
    · exact List.Nodup.filter _ (by cases c <;> simp)
    · intro n hn hn'
      simp [hn] at hn'
  · refine Keyed.nodup_append hr.factories_nodup (by cases c <;> simp) fun e he => ?_
    exact hadmits.factory? (by simpa using he)
  · refine Keyed.nodup_append hr.implementations_nodup (by cases c <;> simp) fun e he => ?_
    exact (hadmits.implementation? (by simpa using he)).2.1
  · intro e he
    rcases List.mem_append.1 he with he | he
    · exact ⟨hw _ _ (hr.implementation_declared e he).1, (hr.implementation_declared e he).2⟩
    · obtain ⟨hdefect, _, hdecl⟩ := hadmits.implementation? (by simpa using he)
      rw [hdecl] at hg
      exact ⟨TypeGraph.find?_self_of_declare hg, (defect?_eq_none_iff.1 hdefect).2.1⟩

/-! ### Runs -/

theorem run_cons (r : Registry α γ) (c : Call α γ) (calls : List (Call α γ)) :
    r.run (c :: calls) = (r.step c).run calls :=
  rfl

theorem run_append (r : Registry α γ) (before after : List (Call α γ)) :
    r.run (before ++ after) = (r.run before).run after :=
  List.foldl_append

theorem accepts_iff : r.accepts c ↔ r.apply c = .ok (r.step c) := by
  rw [accepts, step]
  cases r.apply c <;> simp

/-- A step changes nothing or adds what an accepted call adds. -/
theorem step_cases (r : Registry α γ) (c : Call α γ) :
    r.step c = r ∨ r.accepts c ∧ ∃ g, r.step c = r.adding c g := by
  by_cases h : r.accepts c
  · obtain ⟨_, g, _, hg⟩ := apply_eq_ok_iff.1 (accepts_iff.1 h)
    exact .inr ⟨h, g, hg⟩
  · left
    rw [step]
    rw [accepts] at h
    cases hc : r.apply c with
    | ok _ => simp [hc] at h
    | error _ => rfl

/-- What every accepted registration preserves holds after any list of them. -/
theorem run_invariant {P : Registry α γ → Prop}
    (preserved : ∀ {r r' : Registry α γ} {c : Call α γ}, r.apply c = .ok r' → P r → P r')
    (h : P r) : P (r.run calls) := by
  induction calls generalizing r with
  | nil => exact h
  | cons c calls ih =>
    refine ih ?_
    rw [step]
    cases hc : r.apply c with
    | ok r' => exact preserved hc h
    | error _ => exact h

theorem WellFormed.run (hr : r.WellFormed) (calls : List (Call α γ)) : (r.run calls).WellFormed :=
  run_invariant (fun hc h => h.apply hc) hr

theorem root_run (r : Registry α γ) (calls : List (Call α γ)) : (r.run calls).root = r.root := by
  refine run_invariant (P := fun s => s.root = r.root) (fun {s s' c} hc h => ?_) rfl
  obtain ⟨_, g, _, rfl⟩ := apply_eq_ok_iff.1 hc
  exact h

theorem within_apply (h : r.apply c = .ok r') : r.graph.Within r'.graph := by
  obtain ⟨_, g, hg, rfl⟩ := apply_eq_ok_iff.1 h
  exact within_of_declared hg

theorem within_run (r : Registry α γ) (calls : List (Call α γ)) :
    r.graph.Within (r.run calls).graph :=
  run_invariant (P := fun s => r.graph.Within s.graph)
    (fun hc h => h.trans (within_apply hc)) (TypeGraph.within_refl _)

/-! ### What stays -/

theorem factory?_of_apply {source : Option Source} {make : Factory α γ}
    (h : r.apply (.registerFactory t source make) = .ok r') :
    r'.factory? t = some ⟨t, source, make⟩ := by
  obtain ⟨hnew, rfl⟩ := registerFactory_eq_ok_iff.1 h
  rw [factory?] at hnew ⊢
  simp [List.find?_append, hnew]

theorem implementation?_of_apply {source : Option Source}
    (h : r.apply (.registerImplementation t source i) = .ok r') :
    r'.implementation? t = some ⟨t, source, i⟩ := by
  obtain ⟨⟨_, hnew⟩, g, _, rfl⟩ := registerImplementation_eq_ok_iff.1 h
  rw [implementation?] at hnew ⊢
  simp [List.find?_append, hnew]

/-- The factory of a type stays the one for it. -/
theorem factory?_run {f : FactoryEntry α γ} (h : r.factory? t = some f)
    (calls : List (Call α γ)) : (r.run calls).factory? t = some f := by
  refine run_invariant (P := fun s => s.factory? t = some f) (fun {s s' c} hc hf => ?_) h
  obtain ⟨_, g, _, rfl⟩ := apply_eq_ok_iff.1 hc
  rw [factory?] at hf ⊢
  rw [adding, List.find?_append, hf, Option.some_or]

/-- The implementation of a type stays the one for it. -/
theorem implementation?_run (h : r.implementation? t = some e) (calls : List (Call α γ)) :
    (r.run calls).implementation? t = some e := by
  refine run_invariant (P := fun s => s.implementation? t = some e) (fun {s s' c} hc he => ?_) h
  obtain ⟨_, g, _, rfl⟩ := apply_eq_ok_iff.1 hc
  rw [implementation?] at he ⊢
  rw [adding, List.find?_append, he, Option.some_or]

end Registry

end TypeFamily
