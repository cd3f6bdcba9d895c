import TypeFamily.Proofs.Registry.Operation

/-!
Membership in a family. A type is let into a family before its ancestry is complete, on the word of
a verdict; here the verdict is shown to be final where it claims to be, so that a public type is
refused exactly when no later declarations could have put it in the family.
-/

namespace TypeFamily

variable {α γ : Type}

namespace TypeGraph

variable {g g' : TypeGraph} {d : TypeDecl} {m n root t : TypeName}

theorem Acyclic.mem_ancestors_iff (hg : g.Acyclic) :
    m ∈ g.ancestors n ↔ g.StrictlyBelow n m := by
  rw [TypeGraph.mem_ancestors_iff, below_iff]
  constructor
  · rintro ⟨hne, rfl | h⟩
    · exact absurd rfl hne
    · exact h
  · intro h
    refine ⟨?_, .inr h⟩
    rintro rfl
    exact hg m h

theorem undecided_iff_ancestors (hg : g.Acyclic) (h : g.declare d = .ok g') :
    g.reaches d t = .undecided ↔
      ¬ g'.isAssignable t d.name ∧ ∃ m ∈ g'.ancestors d.name, ¬ g'.contains m := by
  rw [undecided_iff_of_declare hg h]
  simp [(hg.declare h).mem_ancestors_iff, contains]

theorem run_singleton (h : g.declare d = .ok g') : g.run [d] = g' := by
  simp [run, step, h]

/-- While the root has no supertypes, an open verdict on it can still turn out well. -/
theorem exists_declare_of_undecided (hg : g.Acyclic) (h : g.declare d = .ok g')
    (hroot : g.find? root = some { name := root }) (hu : g.reaches d root = .undecided) :
    ∃ e g'', g'.declare e = .ok g'' ∧ g''.isAssignable root d.name := by
  obtain ⟨_, m, hm, hnew⟩ := (undecided_iff_of_declare hg h).1 hu
  have hroot' : g'.find? root = some { name := root } := within_of_declare h _ _ hroot
  refine exists_declare_isAssignable (contains_iff.2 ⟨_, hroot'⟩) ?_ hm.to_reflTransGen hnew
  rw [supertypes_of_find? hroot']

/-- A type is kept from ever reaching the root by nothing but the verdict that it does not. -/
theorem doesNotReach_iff_forall_run (hg : g.Acyclic) (h : g.declare d = .ok g')
    (hroot : g.find? root = some { name := root }) :
    g.reaches d root = .doesNotReach ↔ ∀ after, ¬ (g'.run after).isAssignable root d.name := by
  constructor
  · exact fun hmiss after => not_isAssignable_of_doesNotReach hg h hmiss (within_run g' after)
  · intro never
    cases hv : g.reaches d root with
    | doesNotReach => rfl
    | reaches => exact absurd ((reaches_iff_isAssignable hg h).1 hv) (never [])
    | undecided =>
      obtain ⟨e, g'', he, hassign⟩ := exists_declare_of_undecided hg h hroot hv
      exact absurd (run_singleton he ▸ hassign) (never [e])

end TypeGraph

namespace Registry

variable {r : Registry α γ} {d : TypeDecl} {g' : TypeGraph}

/-- Of the declarations that the graph accepts, those are refused as public types of which the
verdict is that they miss the root. -/
theorem registerPublicType_eq_notInFamily_iff (h : r.graph.declare d = .ok g') :
    r.registerPublicType d = .error (.notInFamily d.name r.root) ↔
      r.graph.reaches d r.root = .doesNotReach := by
  by_cases hv : r.graph.reaches d r.root = .doesNotReach
  · simp [registerPublicType_of_doesNotReach hv, hv]
  · simp [registerPublicType_of_ne hv, hv, h, Except.map]

open TypeGraph in
/-- CORRECT: on a graph that declarations built over a root, the verdict on an accepted declaration
tells what is assignable from then on, stays open exactly while an ancestor is undeclared, and
refuses a public type exactly when it could never be in the family. -/
theorem reaches_final {g : TypeGraph} {root : TypeName}
    (hg : ∃ before, g = (rooted root).run before) (h : g.declare d = .ok g') (t : TypeName) :
    (g.reaches d t = .reaches ↔ g'.isAssignable t d.name) ∧
    (g.reaches d t = .reaches → ∀ after, (g'.run after).isAssignable t d.name) ∧
    (g.reaches d t = .doesNotReach → ∀ after, ¬ (g'.run after).isAssignable t d.name) ∧
    (g.reaches d t = .undecided ↔
      ¬ g'.isAssignable t d.name ∧ ∃ m ∈ g'.ancestors d.name, ¬ g'.contains m) ∧
    (g.reaches d root = .undecided →
      ∃ e g'', g'.declare e = .ok g'' ∧ g''.isAssignable root d.name) ∧
    ∀ (α γ : Type) (r : Registry α γ), r.graph = g → r.root = root →
      (r.registerPublicType d = .error (.notInFamily d.name root) ↔
        ∀ after, ¬ (g'.run after).isAssignable root d.name) := by
  obtain ⟨before, rfl⟩ := hg
  have acyclic := (acyclic_rooted root).run before
  have hroot : ((rooted root).run before).find? root = some { name := root } :=
    within_run _ before _ _ (by rw [find?_rooted, if_pos rfl])
  refine ⟨reaches_iff_isAssignable acyclic h, ?_, ?_, undecided_iff_ancestors acyclic h,
    exists_declare_of_undecided acyclic h hroot, ?_⟩
  · intro hv after
    exact (within_run g' after).isAssignable ((reaches_iff_isAssignable acyclic h).1 hv)
  · intro hv after
    exact not_isAssignable_of_doesNotReach acyclic h hv (within_run g' after)
  · rintro α γ r hr rfl
    rw [registerPublicType_eq_notInFamily_iff (hr ▸ h), hr]
    exact doesNotReach_iff_forall_run acyclic h hroot

/-- `Ring` extends a type declared apart from the family and one that is not declared yet. -/
theorem reaches_final_ring :
    let g := (TypeGraph.rooted ⟨"Shape"⟩).run [{ name := ⟨"Comparable"⟩ }]
    let ring : TypeDecl := { name := ⟨"Ring"⟩, supertypes := [⟨"Comparable"⟩, ⟨"Oval"⟩] }
    let g' : TypeGraph := ⟨g.decls ++ [ring]⟩
    g.declare ring = .ok g' ∧ g.reaches ring ⟨"Shape"⟩ = .undecided ∧
      ∃ e g'', g'.declare e = .ok g'' ∧ g''.isAssignable ⟨"Shape"⟩ ⟨"Ring"⟩ := by
  intro g ring g'
  have accepted : g.declare ring = .ok g' := by cbv
  have verdict : g.reaches ring ⟨"Shape"⟩ = .undecided := by cbv
  exact ⟨accepted, verdict, (reaches_final ⟨_, rfl⟩ accepted ⟨"Shape"⟩).2.2.2.2.1 verdict⟩

end Registry

end TypeFamily
