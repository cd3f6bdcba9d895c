import TypeFamily.Proofs.Registry.Operation
import TypeFamily.Registry.Validate

/-!
What resolution and validation answer, told by what they look at: the implementations registered,
the ancestors in the family, and what is assignable to what.
-/

namespace TypeFamily.Registry

variable {α γ : Type} {r : Registry α γ} {t u : TypeName} {own : ImplementationEntry α}
  {found : Resolution} {cs : List Resolution}

/-! ### Resolution -/

theorem mem_candidates_iff : found ∈ r.candidates t ↔
    ∃ a ∈ r.graph.familyAncestors t r.root, ∃ e, r.implementation? a = some e ∧
      e.resolution = found := by
  simp [candidates]

/-- The answer for a type that owns no implementation, by the candidates there are. -/
def settle (t : TypeName) : List Resolution → Except RegistryError Resolution
  | [] => .error (.noDefaultImplementation t)
  | [only] => .ok only
  | several => .error (.ambiguousImplementation t several)

theorem resolve_of_some (h : r.implementation? t = some own) :
    r.resolve t = .ok own.resolution := by
  rw [resolve, h]

theorem resolve_of_none (h : r.implementation? t = none) :
    r.resolve t = settle t (r.candidates t) := by
  rw [resolve, h]
  cases r.candidates t with
  | nil => rfl
  | cons a rest => cases rest <;> rfl

theorem settle_of_one_lt (h : 1 < cs.length) :
    settle t cs = .error (.ambiguousImplementation t cs) := by
  rcases cs with _ | ⟨a, _ | ⟨b, rest⟩⟩
  · simp at h
  · simp at h
  · rfl

theorem settle_eq_ok_iff : settle t cs = .ok found ↔ cs = [found] := by
  rcases cs with _ | ⟨a, _ | ⟨b, rest⟩⟩ <;> simp [settle]

theorem settle_eq_none_iff : settle t cs = .error (.noDefaultImplementation u) ↔ u = t ∧ cs = [] := by
  rcases cs with _ | ⟨a, _ | ⟨b, rest⟩⟩ <;> simp [settle, eq_comm]

theorem settle_eq_ambiguous_iff {several : List Resolution} :
    settle t cs = .error (.ambiguousImplementation u several) ↔
      u = t ∧ several = cs ∧ 1 < cs.length := by
  rcases cs with _ | ⟨a, _ | ⟨b, rest⟩⟩ <;> simp [settle, eq_comm]

/-- A type resolves to what it owns or else to its only candidate. -/
theorem resolve_eq_ok_iff : r.resolve t = .ok found ↔
    (∃ own, r.implementation? t = some own ∧ own.resolution = found) ∨
      r.implementation? t = none ∧ r.candidates t = [found] := by
  cases hown : r.implementation? t with
  | some own => simp [resolve_of_some hown]
  | none => simp [resolve_of_none hown, settle_eq_ok_iff]

/-! ### Validation -/

/-- What is asked of the implementation that a public type owns. -/
structure Serves (r : Registry α γ) (t : TypeName) (own : ImplementationEntry α) : Prop where
  root : r.graph.isAssignable r.root own.name
  type : r.graph.isAssignable t own.name
  views : ∀ v ∈ r.viewEntries t, r.graph.isAssignable v.view own.name

theorem ownDefect?_eq_none_iff : r.ownDefect? t own = none ↔
    r.graph.isAssignable r.root own.name ∧ r.graph.isAssignable t own.name := by
  rw [ownDefect?]
  by_cases h1 : r.graph.isAssignable r.root own.name <;>
    by_cases h2 : r.graph.isAssignable t own.name <;> simp [h1, h2]

theorem unmetView?_eq_none_iff : r.unmetView? t own = none ↔
    ∀ v ∈ r.viewEntries t, r.graph.isAssignable v.view own.name := by
  simp [unmetView?]

theorem serves_iff : r.Serves t own ↔
    (r.graph.isAssignable r.root own.name ∧ r.graph.isAssignable t own.name) ∧
      ∀ v ∈ r.viewEntries t, r.graph.isAssignable v.view own.name :=
  ⟨fun h => ⟨⟨h.root, h.type⟩, h.views⟩, fun h => ⟨h.1.1, h.1.2, h.2⟩⟩

theorem checkOwn_eq_ok_iff : r.checkOwn t own = .ok () ↔ r.Serves t own := by
  rw [serves_iff, ← ownDefect?_eq_none_iff, ← unmetView?_eq_none_iff, checkOwn]
  cases r.ownDefect? t own with
  | some _ => simp
  | none => cases r.unmetView? t own <;> simp

theorem checkInherited_eq_ok_iff : r.checkInherited t = .ok () ↔
    r.graph.isManaged t ∧ ∃ found, r.resolve t = .ok found := by
  rw [checkInherited]
  cases r.resolve t with
  | error _ => simp
  | ok found => cases r.graph.isManaged t <;> simp

/-- A public type passes if it is in the family and either its own implementation serves it or it is
managed and resolves. -/
theorem check_eq_ok_iff : r.check t = .ok () ↔ r.graph.isAssignable r.root t ∧
    ((∃ own, r.implementation? t = some own ∧ r.Serves t own) ∨
      r.implementation? t = none ∧ r.graph.isManaged t ∧ ∃ found, r.resolve t = .ok found) := by
  rw [check]
  by_cases hroot : r.graph.isAssignable r.root t
  · cases r.implementation? t with
    | some own => simp [hroot, checkOwn_eq_ok_iff]
    | none => simp [hroot, checkInherited_eq_ok_iff]
  · simp [hroot]

/-- A sweep that stops at the first failure succeeds if there is none. -/
theorem forM_eq_ok_iff {σ ε : Type} {l : List σ} {f : σ → Except ε Unit} :
    l.forM f = .ok () ↔ ∀ x ∈ l, f x = .ok () := by
  induction l with
  | nil => simp [pure, Except.pure]
  | cons x l ih =>
    rw [List.forM_eq_forM] at ih
    rw [List.forM_eq_forM, List.forM_cons, bind_ok_iff, List.forall_mem_cons, ← ih]
    exact ⟨fun ⟨(), h⟩ => h, fun h => ⟨(), h⟩⟩

/-- A sweep that stops at the first failure fails as the first member that fails. -/
theorem forM_eq_error_iff {σ ε : Type} {l : List σ} {f : σ → Except ε Unit} {e : ε} :
    l.forM f = .error e ↔ ∃ earlier x later, l = earlier ++ x :: later ∧
      (∀ y ∈ earlier, f y = .ok ()) ∧ f x = .error e := by
  induction l with
  | nil => simp [pure, Except.pure]
  | cons x l ih =>
    rw [List.forM_eq_forM] at ih
    rw [List.forM_eq_forM, List.forM_cons]
    cases hx : f x with
    | error e' =>
      constructor
      · intro h
        exact ⟨[], x, l, rfl, nofun, hx.trans h⟩
      · rintro ⟨earlier, y, later, hl, hearlier, hy⟩
        cases earlier with
        | nil =>
          obtain ⟨rfl, _⟩ := List.cons.inj hl
          exact hx.symm.trans hy
        | cons z earlier =>
          obtain ⟨rfl, _⟩ := List.cons.inj hl
          have hok := hearlier x List.mem_cons_self
          rw [hx] at hok
          cases hok
    | ok u =>
      refine ih.trans ⟨?_, ?_⟩
      · rintro ⟨earlier, y, later, rfl, hearlier, hy⟩
        exact ⟨x :: earlier, y, later, rfl, List.forall_mem_cons.2 ⟨hx, hearlier⟩, hy⟩
      · rintro ⟨earlier, y, later, hl, hearlier, hy⟩
        cases earlier with
        | nil =>
          obtain ⟨rfl, _⟩ := List.cons.inj hl
          rw [hx] at hy
          cases hy
        | cons z earlier =>
          obtain ⟨rfl, rfl⟩ := List.cons.inj hl
          exact ⟨earlier, y, later, rfl, (List.forall_mem_cons.1 hearlier).2, hy⟩

theorem validate_eq_ok_iff : r.validate = .ok () ↔ ∀ t ∈ r.publicTypes, r.check t = .ok () :=
  forM_eq_ok_iff

end TypeFamily.Registry
