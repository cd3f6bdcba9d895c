import Mathlib.Tactic.ByContra
import TypeFamily.Proofs.Graph.Walk

/-!
What declaring does to a graph. A declaration is accepted exactly when it repeats one that stands or
is of a new name and closes no cycle; it then changes the entry of its name alone. So a graph that
is built by declarations only ever grows, and none of its names is above itself, which is what makes
assignability a partial order.
-/

namespace TypeFamily.TypeGraph

variable {g g' g'' : TypeGraph} {d e : TypeDecl} {a b n s t : TypeName} {ds : List TypeDecl}

/-! ### Growing -/

/-- Every declaration of `g` stands in `g'` as it is. -/
def Within (g g' : TypeGraph) : Prop :=
  ∀ n d, g.find? n = some d → g'.find? n = some d

theorem within_refl (g : TypeGraph) : g.Within g :=
  fun _ _ h => h

theorem Within.trans (h : g.Within g') (h' : g'.Within g'') : g.Within g'' :=
  fun n d hd => h' n d (h n d hd)

theorem supertypes_of_find? (h : g.find? n = some d) : g.supertypes n = d.supertypes := by
  rw [supertypes, h]

theorem extends_iff : g.Extends a b ↔ ∃ d, g.find? a = some d ∧ b ∈ d.supertypes := by
  rw [Extends, supertypes]
  cases g.find? a <;> simp

theorem Within.extends (h : g.Within g') (hab : g.Extends a b) : g'.Extends a b := by
  obtain ⟨d, hd, hb⟩ := extends_iff.1 hab
  exact extends_iff.2 ⟨d, h a d hd, hb⟩

theorem Within.below (h : g.Within g') (hab : g.Below a b) : g'.Below a b :=
  Relation.ReflTransGen.mono (fun _ _ => h.extends) _ _ hab

theorem Within.strictlyBelow (h : g.Within g') (hab : g.StrictlyBelow a b) :
    g'.StrictlyBelow a b :=
  Relation.TransGen.mono (fun _ _ => h.extends) _ _ hab

theorem contains_iff : g.contains n ↔ ∃ d, g.find? n = some d := by
  rw [contains, Option.isSome_iff_exists]

/-- Once all that a name is below is declared, that is all it will ever be below. -/
theorem Within.below_iff (h : g.Within g') (declared : ∀ x, g.Below a x → g.contains x) :
    g'.Below a b ↔ g.Below a b := by
  refine below_congr fun x hx => ?_
  obtain ⟨d, hd⟩ := contains_iff.1 (declared x hx)
  rw [supertypes_of_find? hd, supertypes_of_find? (h x d hd)]

/-! ### One declaration -/

theorem find?_append_new (h : g.find? d.name = none) (n : TypeName) :
    (⟨g.decls ++ [d]⟩ : TypeGraph).find? n = if n = d.name then some d else g.find? n := by
  rw [find?, List.find?_append]
  by_cases hn : n = d.name
  · subst hn
    rw [find?] at h
    simp [h]
  · have hd : [d].find? (·.name = n) = none := by simp [Ne.symm hn]
    rw [if_neg hn, hd, Option.or_none, find?]

/-- The first listed supertype that is the declared name, or is below it. -/
theorem find?_supertypes_eq_some_iff :
    d.supertypes.find? (g.isAssignable d.name) = some s ↔
      g.Below s d.name ∧ ∃ before after, d.supertypes = before ++ s :: after ∧
        ∀ x ∈ before, ¬ g.Below x d.name := by
  simp [List.find?_eq_some_iff_append, ← isAssignable_iff]

theorem find?_supertypes_eq_none_iff :
    d.supertypes.find? (g.isAssignable d.name) = none ↔ ∀ s ∈ d.supertypes, ¬ g.Below s d.name := by
  simp [← isAssignable_iff]

theorem declare_of_find?_eq_some (h : g.find? d.name = some e) :
    g.declare d = if e = d then .ok g else .error (.conflictingDeclaration d.name e d) := by
  rw [declare, h]

theorem declare_of_find?_eq_none (h : g.find? d.name = none) :
    g.declare d = match d.supertypes.find? (g.isAssignable d.name) with
      | some s => .error (.cyclicHierarchy d.name s)
      | none => .ok ⟨g.decls ++ [d]⟩ := by
  cases hs : d.supertypes.find? (g.isAssignable d.name) <;> simp [declare, h, hs]

theorem declare_eq_ok_iff :
    g.declare d = .ok g' ↔ g.find? d.name = some d ∧ g' = g ∨
      g.find? d.name = none ∧ (∀ s ∈ d.supertypes, ¬ g.Below s d.name) ∧
        g' = ⟨g.decls ++ [d]⟩ := by
  cases hf : g.find? d.name with
  | some e =>
    rw [declare_of_find?_eq_some hf]
    by_cases he : e = d
    · simp [he, eq_comm]
    · simp [he]
  | none =>
    rw [declare_of_find?_eq_none hf, ← find?_supertypes_eq_none_iff]
    cases d.supertypes.find? (g.isAssignable d.name) <;> simp [eq_comm]

theorem declare_eq_conflict_iff {existing incoming : TypeDecl} :
    g.declare d = .error (.conflictingDeclaration n existing incoming) ↔
      n = d.name ∧ incoming = d ∧ g.find? d.name = some existing ∧ existing ≠ d := by
  cases hf : g.find? d.name with
  | some e =>
    rw [declare_of_find?_eq_some hf]
    by_cases he : e = d <;> grind
  | none =>
    rw [declare_of_find?_eq_none hf]
    cases d.supertypes.find? (g.isAssignable d.name) <;> simp

theorem declare_eq_cycle_iff :
    g.declare d = .error (.cyclicHierarchy n s) ↔
      n = d.name ∧ g.find? d.name = none ∧
        d.supertypes.find? (g.isAssignable d.name) = some s := by
  cases hf : g.find? d.name with
  | some e =>
    rw [declare_of_find?_eq_some hf]
    by_cases he : e = d <;> simp [he]
  | none =>
    rw [declare_of_find?_eq_none hf]
    cases d.supertypes.find? (g.isAssignable d.name) <;> simp [eq_comm]

/-- An accepted declaration stands afterwards, and no other entry is touched. -/
theorem find?_of_declare (h : g.declare d = .ok g') (n : TypeName) :
    g'.find? n = if n = d.name then some d else g.find? n := by
  rcases declare_eq_ok_iff.1 h with ⟨hd, rfl⟩ | ⟨hd, _, rfl⟩
  · by_cases hn : n = d.name
    · rw [if_pos hn, hn, hd]
    · rw [if_neg hn]
  · exact find?_append_new hd n

theorem find?_self_of_declare (h : g.declare d = .ok g') : g'.find? d.name = some d := by
  rw [find?_of_declare h, if_pos rfl]

theorem within_of_declare (h : g.declare d = .ok g') : g.Within g' := by
  rcases declare_eq_ok_iff.1 h with ⟨_, rfl⟩ | ⟨hd, _, rfl⟩
  · exact within_refl _
  · intro n e he
    have hn : n ≠ d.name := by
      rintro rfl
      simp [hd] at he
    rw [find?_append_new hd, if_neg hn, he]

/-! ### Cycles -/

/-- No name is above itself. -/
def Acyclic (g : TypeGraph) : Prop :=
  ∀ n, ¬ g.StrictlyBelow n n

/-- The steps there are once the supertypes of `d` are added to those declared. -/
def ExtendsWith (g : TypeGraph) (d : TypeDecl) (a b : TypeName) : Prop :=
  g.Extends a b ∨ a = d.name ∧ b ∈ d.supertypes

/-- With the supertypes of `d` added, some name would be above itself. -/
def ClosesCycle (g : TypeGraph) (d : TypeDecl) : Prop :=
  ∃ n, Relation.TransGen (g.ExtendsWith d) n n

/-- A path along the steps with `d` either uses none of those that `d` adds, or goes up to `d` and
on from one of its supertypes; it can use them once only, if no supertype leads back to `d`. -/
theorem strictlyBelow_of_extendsWith (hopen : ∀ s ∈ d.supertypes, ¬ g.Below s d.name)
    (h : Relation.TransGen (g.ExtendsWith d) a b) :
    g.StrictlyBelow a b ∨ g.Below a d.name ∧ ∃ s ∈ d.supertypes, g.Below s b := by
  induction h with
  | single hstep =>
    rcases hstep with hstep | ⟨rfl, hs⟩
    · exact .inl (.single hstep)
    · exact .inr ⟨.refl, _, hs, .refl⟩
  | tail _ hstep ih =>
    rcases hstep with hstep | ⟨rfl, hs⟩
    · rcases ih with hab | ⟨had, s, hs, hsb⟩
      · exact .inl (hab.tail hstep)
      · exact .inr ⟨had, s, hs, hsb.tail hstep⟩
    · rcases ih with hab | ⟨_, s, hs', hsb⟩
      · exact .inr ⟨hab.to_reflTransGen, _, hs, .refl⟩
      · exact absurd hsb (hopen s hs')

/-- A declaration closes a cycle exactly when one of its supertypes leads back to it. -/
theorem Acyclic.closesCycle_iff (hg : g.Acyclic) :
    g.ClosesCycle d ↔ ∃ s ∈ d.supertypes, g.Below s d.name := by
  constructor
  · rintro ⟨n, hn⟩
    by_contra hopen
    have hopen : ∀ s ∈ d.supertypes, ¬ g.Below s d.name := fun s hs hsd => hopen ⟨s, hs, hsd⟩
    rcases strictlyBelow_of_extendsWith hopen hn with hnn | ⟨hnd, s, hs, hsn⟩
    · exact hg n hnn
    · exact hopen s hs (hsn.trans hnd)
  · rintro ⟨s, hs, hsd⟩
    refine ⟨d.name, Relation.TransGen.head' (.inr ⟨rfl, hs⟩) ?_⟩
    exact Relation.ReflTransGen.mono (fun _ _ h => .inl h) _ _ hsd

theorem Acyclic.declare (hg : g.Acyclic) (h : g.declare d = .ok g') : g'.Acyclic := by
  rcases declare_eq_ok_iff.1 h with ⟨_, rfl⟩ | ⟨hd, hopen, rfl⟩
  · exact hg
  · intro n hn
    have closes : g.ClosesCycle d := by
      refine ⟨n, Relation.TransGen.mono (fun x y hxy => ?_) _ _ hn⟩
      rw [Extends, supertypes, find?_append_new hd] at hxy
      by_cases hx : x = d.name
      · exact .inr ⟨hx, by simpa [hx] using hxy⟩
      · rw [if_neg hx] at hxy
        exact .inl hxy
    obtain ⟨s, hs, hsd⟩ := hg.closesCycle_iff.1 closes
    exact hopen s hs hsd

theorem Acyclic.below_antisymm (hg : g.Acyclic) (hab : g.Below a b) (hba : g.Below b a) :
    a = b := by
  rcases below_iff.1 hab with hab | hab
  · exact hab.symm
  · exact absurd (hab.trans_left hba) (hg a)

theorem Acyclic.of_within (hg' : g'.Acyclic) (h : g.Within g') : g.Acyclic :=
  fun n hn => hg' n (h.strictlyBelow hn)

/-- What stands in a graph without cycles is accepted by every part of that graph, and the part
stays one. -/
theorem Within.exists_declare (h : g.Within g') (hg' : g'.Acyclic) (hd : g'.find? d.name = some d) :
    ∃ g'', g.declare d = .ok g'' ∧ g''.Within g' := by
  cases hf : g.find? d.name with
  | some e =>
    have he : some e = some d := (h _ e hf).symm.trans hd
    obtain rfl := Option.some.inj he
    exact ⟨g, declare_eq_ok_iff.2 (.inl ⟨hf, rfl⟩), h⟩
  | none =>
    have hopen : ∀ s ∈ d.supertypes, ¬ g.Below s d.name := fun s hs hsd =>
      hg' d.name (strictlyBelow_iff.2 ⟨s, extends_iff.2 ⟨d, hd, hs⟩, h.below hsd⟩)
    refine ⟨_, declare_eq_ok_iff.2 (.inr ⟨hf, hopen, rfl⟩), fun n e he => ?_⟩
    rw [find?_append_new hf] at he
    by_cases hn : n = d.name
    · rw [if_pos hn] at he
      rw [hn, hd, he]
    · rw [if_neg hn] at he
      exact h n e he

/-! ### Many declarations -/

/-- The graph after one declaration: as it was, if that is refused. -/
def step (g : TypeGraph) (d : TypeDecl) : TypeGraph :=
  match g.declare d with
  | .ok g' => g'
  | .error _ => g

/-- The graph after a list of declarations, the refused ones passed over. -/
def run (g : TypeGraph) (ds : List TypeDecl) : TypeGraph :=
  ds.foldl step g

/-- What every accepted declaration preserves holds after any list of them. -/
theorem run_invariant {P : TypeGraph → Prop}
    (preserved : ∀ {g g' : TypeGraph} {d : TypeDecl}, g.declare d = .ok g' → P g → P g')
    (h : P g) : P (g.run ds) := by
  induction ds generalizing g with
  | nil => exact h
  | cons d ds ih =>
    refine ih ?_
    rw [step]
    cases hd : g.declare d with
    | ok g' => exact preserved hd h
    | error _ => exact h

theorem within_run (g : TypeGraph) (ds : List TypeDecl) : g.Within (g.run ds) :=
  run_invariant (fun hd h => h.trans (within_of_declare hd)) (within_refl g)

theorem Acyclic.run (hg : g.Acyclic) (ds : List TypeDecl) : (g.run ds).Acyclic :=
  run_invariant (fun hd h => h.declare hd) hg

/-- The graphs that declarations lead to, from one with nothing or only a root declared. -/
def Built (g : TypeGraph) : Prop :=
  ∃ start ds, (start = {} ∨ ∃ root, start = rooted root) ∧ g = start.run ds

theorem acyclic_of_supertypes_eq_nil (h : ∀ n, g.supertypes n = []) : g.Acyclic := by
  intro n hn
  obtain ⟨s, hs, _⟩ := strictlyBelow_iff.1 hn
  simp [h] at hs

theorem find?_rooted (root n : TypeName) :
    (rooted root).find? n = if n = root then some { name := root } else none := by
  simp [rooted, find?, eq_comm, apply_ite]

theorem acyclic_rooted (root : TypeName) : (rooted root).Acyclic := by
  refine acyclic_of_supertypes_eq_nil fun n => ?_
  rw [supertypes, find?_rooted]
  by_cases hn : n = root <;> simp [hn]

theorem Built.acyclic (hg : g.Built) : g.Acyclic := by
  obtain ⟨start, ds, rfl | ⟨root, rfl⟩, rfl⟩ := hg
  · exact (acyclic_of_supertypes_eq_nil fun n => rfl).run ds
  · exact (acyclic_rooted root).run ds

end TypeFamily.TypeGraph
