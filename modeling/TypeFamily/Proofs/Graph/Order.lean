import TypeFamily.Proofs.Graph.Declare

/-!
Assignability is a partial order on every graph that declarations can build, whatever they mention
and in whatever order they come, and declaring is what keeps it one: it refuses exactly the
declarations that contradict one that stands or would put a name above itself.
-/

namespace TypeFamily.TypeGraph

variable {g : TypeGraph} {d : TypeDecl}

/-- What declaring `d` does to `g`, told by what is declared and by which steps lead where. -/
structure GuardedAt (g : TypeGraph) (d : TypeDecl) : Prop where
  accepted : (∃ g', g.declare d = .ok g') ↔
    g.find? d.name = some d ∨ g.find? d.name = none ∧ ¬ g.ClosesCycle d
  conflict : ∀ n existing incoming,
    g.declare d = .error (.conflictingDeclaration n existing incoming) ↔
      n = d.name ∧ incoming = d ∧ g.find? d.name = some existing ∧ existing ≠ d
  cycle : (∃ n s, g.declare d = .error (.cyclicHierarchy n s)) ↔
    g.find? d.name = none ∧ g.ClosesCycle d
  /-- The supertype that is named is the first that is, or leads up to, the declared name. -/
  named : ∀ n s, g.declare d = .error (.cyclicHierarchy n s) →
    n = d.name ∧ g.Below s d.name ∧ ∃ before after, d.supertypes = before ++ s :: after ∧
      ∀ x ∈ before, ¬ g.Below x d.name
  entry : ∀ g', g.declare d = .ok g' →
    ∀ n, g'.find? n = if n = d.name then some d else g.find? n
  unchanged : g.find? d.name ≠ none ∨ g.ClosesCycle d → g.step d = g

theorem Acyclic.accepted_iff (hg : g.Acyclic) : (∃ g', g.declare d = .ok g') ↔
    g.find? d.name = some d ∨ g.find? d.name = none ∧ ¬ g.ClosesCycle d := by
  simp only [declare_eq_ok_iff, hg.closesCycle_iff]
  constructor
  · rintro ⟨g', ⟨hd, _⟩ | ⟨hd, hopen, _⟩⟩
    · exact .inl hd
    · exact .inr ⟨hd, fun ⟨s, hs, hsd⟩ => hopen s hs hsd⟩
  · rintro (hd | ⟨hd, hopen⟩)
    · exact ⟨g, .inl ⟨hd, rfl⟩⟩
    · exact ⟨_, .inr ⟨hd, fun s hs hsd => hopen ⟨s, hs, hsd⟩, rfl⟩⟩

theorem Acyclic.cycle_iff (hg : g.Acyclic) :
    (∃ n s, g.declare d = .error (.cyclicHierarchy n s)) ↔
      g.find? d.name = none ∧ g.ClosesCycle d := by
  simp only [declare_eq_cycle_iff, hg.closesCycle_iff]
  constructor
  · rintro ⟨_, s, _, hd, hs⟩
    refine ⟨hd, s, ?_, (find?_supertypes_eq_some_iff.1 hs).1⟩
    exact List.mem_of_find?_eq_some hs
  · rintro ⟨hd, s, hs, hsd⟩
    cases hfirst : d.supertypes.find? (g.isAssignable d.name) with
    | some first => exact ⟨_, first, rfl, hd, rfl⟩
    | none => exact absurd hsd (find?_supertypes_eq_none_iff.1 hfirst s hs)

/-- A declaration that is repeated or refused changes nothing. -/
theorem Acyclic.step_eq_self (hg : g.Acyclic) (h : g.find? d.name ≠ none ∨ g.ClosesCycle d) :
    g.step d = g := by
  rw [step]
  cases hd : g.declare d with
  | error _ => rfl
  | ok g' =>
    rcases declare_eq_ok_iff.1 hd with ⟨_, rfl⟩ | ⟨hnew, hopen, _⟩
    · rfl
    · rcases h with h | h
      · exact absurd hnew h
      · obtain ⟨s, hs, hsd⟩ := hg.closesCycle_iff.1 h
        exact absurd hsd (hopen s hs)

theorem Acyclic.guardedAt (hg : g.Acyclic) (d : TypeDecl) : g.GuardedAt d where
  accepted := hg.accepted_iff
  conflict _ _ _ := declare_eq_conflict_iff
  cycle := hg.cycle_iff
  named n s h := by
    obtain ⟨hn, _, hs⟩ := declare_eq_cycle_iff.1 h
    exact ⟨hn, find?_supertypes_eq_some_iff.1 hs⟩
  entry _ h n := find?_of_declare h n
  unchanged := hg.step_eq_self

/-- CORRECT: on every graph built by declarations, being assignable is being below, it is a partial
order on all names, declared or not, and each declaration is guarded exactly. -/
theorem isAssignable_partialOrder_guarded (hg : g.Built) :
    (∀ t n, g.isAssignable t n ↔ g.Below n t) ∧
    (∀ n, g.isAssignable n n) ∧
    (∀ a b c, g.isAssignable b a → g.isAssignable c b → g.isAssignable c a) ∧
    (∀ a b, g.isAssignable b a → g.isAssignable a b → a = b) ∧
    ∀ d, g.GuardedAt d := by
  refine ⟨fun t n => isAssignable_iff, ?_, ?_, ?_, hg.acyclic.guardedAt⟩
  · exact fun n => isAssignable_iff.2 .refl
  · intro a b c hab hbc
    exact isAssignable_iff.2 ((isAssignable_iff.1 hab).trans (isAssignable_iff.1 hbc))
  · intro a b hab hba
    exact hg.acyclic.below_antisymm (isAssignable_iff.1 hab) (isAssignable_iff.1 hba)

/-- A forward reference to `B`, listed twice, and then a refused `B` that would have closed the
cycle and a refused name that extends itself. -/
theorem isAssignable_partialOrder_guarded_forward :
    let g := ({} : TypeGraph).run
      [{ name := ⟨"A"⟩, supertypes := [⟨"B"⟩, ⟨"B"⟩] },
        { name := ⟨"B"⟩, supertypes := [⟨"C"⟩, ⟨"A"⟩] },
        { name := ⟨"C"⟩, supertypes := [⟨"C"⟩] }]
    g.Built ∧ g.GuardedAt { name := ⟨"B"⟩, supertypes := [⟨"C"⟩, ⟨"A"⟩] } :=
  have built := ⟨_, _, .inl rfl, rfl⟩
  ⟨built, (isAssignable_partialOrder_guarded built).2.2.2.2 _⟩

end TypeFamily.TypeGraph
