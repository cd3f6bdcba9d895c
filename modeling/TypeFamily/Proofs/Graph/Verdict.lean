import TypeFamily.Proofs.Graph.Declare

/-!
What the verdict on a declaration means. The search behind it starts at the supertypes that the
declaration lists and need not find the declaration itself in the graph; once the graph accepts it,
the verdict is read off its ancestors there. A type that is reached stays reached, one that is
missed with every ancestor declared stays missed, and only while some ancestor is undeclared can the
answer still change.
-/

namespace TypeFamily.TypeGraph

variable {g g' : TypeGraph} {d : TypeDecl} {m n t : TypeName}

/-- Steps lead from a supertype that `d` lists up to `m`. -/
def Above (g : TypeGraph) (d : TypeDecl) (m : TypeName) : Prop :=
  ∃ s ∈ d.supertypes, g.Below s m

/-- The three verdicts, told by what the supertypes of `d` lead to. -/
theorem reaches_spec (g : TypeGraph) (d : TypeDecl) (t : TypeName) :
    match g.reaches d t with
    | .reaches => t = d.name ∨ g.Above d t
    | .doesNotReach => ¬ (t = d.name ∨ g.Above d t) ∧ ∀ m, g.Above d m → g.contains m
    | .undecided => ¬ (t = d.name ∨ g.Above d t) ∧ ∃ m, g.Above d m ∧ g.find? m = none := by
  have hit : (d.name = t ∨ t ∈ g.walk [] d.supertypes) ↔ t = d.name ∨ g.Above d t := by
    rw [mem_walk_nil_iff, eq_comm, Above]
  have closed : (g.walk [] d.supertypes).all g.contains ↔ ∀ m, g.Above d m → g.contains m := by
    simp only [List.all_eq_true, mem_walk_nil_iff, Above]
  rw [← hit, ← closed, reaches]
  by_cases h : d.name = t ∨ t ∈ g.walk [] d.supertypes
  · simp [h]
  · by_cases hc : (g.walk [] d.supertypes).all g.contains
    · simp [h, hc]
    · have undeclared : ∃ m, g.Above d m ∧ g.find? m = none := by
        simpa [closed, contains] using hc
      simp [h, hc, undeclared]

theorem reaches_eq_reaches_iff : g.reaches d t = .reaches ↔ t = d.name ∨ g.Above d t := by
  have spec := reaches_spec g d t
  cases h : g.reaches d t <;> simp_all

theorem reaches_eq_doesNotReach_iff : g.reaches d t = .doesNotReach ↔
    ¬ (t = d.name ∨ g.Above d t) ∧ ∀ m, g.Above d m → g.contains m := by
  have spec := reaches_spec g d t
  cases h : g.reaches d t <;> simp_all [contains]

theorem reaches_eq_undecided_iff : g.reaches d t = .undecided ↔
    ¬ (t = d.name ∨ g.Above d t) ∧ ∃ m, g.Above d m ∧ g.find? m = none := by
  have spec := reaches_spec g d t
  cases h : g.reaches d t <;> simp_all [contains, Option.isSome_iff_ne_none]

/-! ### The verdict on an accepted declaration -/

/-- In the graph that has accepted `d`, its ancestors are what its supertypes led to before. -/
theorem strictlyBelow_of_declare (hg : g.Acyclic) (h : g.declare d = .ok g') :
    g'.StrictlyBelow d.name m ↔ g.Above d m := by
  have hd : g'.find? d.name = some d := find?_self_of_declare h
  rw [strictlyBelow_iff, supertypes_of_find? hd, Above]
  refine exists_congr fun s => and_congr_right fun hs => below_congr fun x hx => ?_
  -- no supertype of `d` leads to `d` itself, so the entry that is new is none on the way
  have hne : x ≠ d.name := by
    rintro rfl
    refine hg.declare h d.name (strictlyBelow_iff.2 ⟨s, ?_, (within_of_declare h).below hx⟩)
    rwa [supertypes_of_find? hd]
  rw [supertypes, supertypes, find?_of_declare h, if_neg hne]

theorem hit_iff_of_declare (hg : g.Acyclic) (h : g.declare d = .ok g') :
    t = d.name ∨ g.Above d t ↔ g'.isAssignable t d.name := by
  rw [isAssignable_iff, below_iff, strictlyBelow_of_declare hg h]

/-- What is assignable once stays so. -/
theorem Within.isAssignable (h : g.Within g') (ht : g.isAssignable t m) : g'.isAssignable t m :=
  isAssignable_iff.2 (h.below (isAssignable_iff.1 ht))

/-- A type that is reached is an ancestor, or the declared type itself, from then on. -/
theorem reaches_iff_isAssignable (hg : g.Acyclic) (h : g.declare d = .ok g') :
    g.reaches d t = .reaches ↔ g'.isAssignable t d.name := by
  rw [reaches_eq_reaches_iff, hit_iff_of_declare hg h]

/-- A type that is missed with every ancestor declared is no ancestor in any larger graph. -/
theorem not_isAssignable_of_doesNotReach {g'' : TypeGraph} (hg : g.Acyclic)
    (h : g.declare d = .ok g') (ht : g.reaches d t = .doesNotReach) (hw : g'.Within g'') :
    ¬ g''.isAssignable t d.name := by
  obtain ⟨hmiss, declared⟩ := reaches_eq_doesNotReach_iff.1 ht
  have closed : ∀ x, g'.Below d.name x → g'.contains x := by
    intro x hx
    rcases below_iff.1 hx with rfl | hx
    · exact contains_iff.2 ⟨d, find?_self_of_declare h⟩
    · obtain ⟨e, he⟩ := contains_iff.1 (declared x ((strictlyBelow_of_declare hg h).1 hx))
      exact contains_iff.2 ⟨e, within_of_declare h x e he⟩
  rw [isAssignable_iff, hw.below_iff closed, ← isAssignable_iff, ← hit_iff_of_declare hg h]
  exact hmiss

/-- No part of a graph without cycles rules out what the whole graph has. -/
theorem Within.reaches_ne_doesNotReach (hw : g.Within g') (hg' : g'.Acyclic)
    (hd : g'.find? d.name = some d) (ht : g'.isAssignable t d.name) :
    g.reaches d t ≠ .doesNotReach := by
  intro hv
  obtain ⟨g'', h, hw'⟩ := hw.exists_declare hg' hd
  exact not_isAssignable_of_doesNotReach (hg'.of_within hw) h hv hw' ht

/-- The answer is open exactly while the type is missed and some ancestor is undeclared. -/
theorem undecided_iff_of_declare (hg : g.Acyclic) (h : g.declare d = .ok g') :
    g.reaches d t = .undecided ↔ ¬ g'.isAssignable t d.name ∧
      ∃ m, g'.StrictlyBelow d.name m ∧ g'.find? m = none := by
  have hd : g'.find? d.name = some d := find?_self_of_declare h
  rw [reaches_eq_undecided_iff, hit_iff_of_declare hg h]
  refine and_congr_right fun _ => exists_congr fun m => ?_
  rw [strictlyBelow_of_declare hg h]
  refine and_congr_right fun hm => ?_
  have hne : m ≠ d.name := by
    rintro rfl
    exact hg.declare h d.name ((strictlyBelow_of_declare hg h).2 hm)
  rw [find?_of_declare h, if_neg hne]

/-- A name without supertypes is below itself alone. -/
theorem eq_of_below (h : g.supertypes m = []) (hmt : g.Below m t) : t = m := by
  rcases below_iff.1 hmt with rfl | hmt
  · rfl
  · obtain ⟨s, hs, _⟩ := strictlyBelow_iff.1 hmt
    simp [h] at hs

/-- An undeclared ancestor can be declared to extend the root, and all below it with it. -/
theorem exists_declare_isAssignable {root : TypeName} (hroot : g.contains root)
    (hsup : g.supertypes root = []) (hm : g.Below n m) (hnew : g.find? m = none) :
    ∃ e g', g.declare e = .ok g' ∧ g'.isAssignable root n := by
  have hopen : ∀ s ∈ [root], ¬ g.Below s m := by
    intro s hs hsm
    obtain rfl : m = s := eq_of_below (List.mem_singleton.1 hs ▸ hsup) hsm
    rw [List.mem_singleton.1 hs] at hnew
    simp [contains, hnew] at hroot
  let e : TypeDecl := { name := m, supertypes := [root] }
  have he : g.declare e = .ok ⟨g.decls ++ [e]⟩ := declare_eq_ok_iff.2 (.inr ⟨hnew, hopen, rfl⟩)
  refine ⟨e, _, he, isAssignable_iff.2 (((within_of_declare he).below hm).tail ?_)⟩
  exact extends_iff.2 ⟨e, find?_self_of_declare he, List.mem_singleton.2 rfl⟩

end TypeFamily.TypeGraph
