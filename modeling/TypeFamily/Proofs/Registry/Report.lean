import TypeFamily.Proofs.Registry.Rule

/-!
The two sweeps over the public types say the same. One stops at the first type that fails, the other
goes on and keeps all that fail; the first failure of the second is what the first one fails with,
and its failures are exactly the types that do not pass a check of their own.
-/

namespace TypeFamily.Registry

variable {α γ : Type} {r : Registry α γ} {t : TypeName} {f : Failure} {ts : List TypeName}

/-! ### Failures -/

theorem failure?_eq_none_iff : r.failure? t = none ↔ r.check t = .ok () := by
  rw [failure?]
  cases r.check t with
  | ok u => simp
  | error e => simp

theorem failure?_eq_some_iff : r.failure? t = some f ↔
    f.type = t ∧ r.check t = .error f.error ∧ f.message = f.error.message := by
  rw [failure?]
  cases r.check t with
  | ok u => simp
  | error e =>
    obtain ⟨type, message, error⟩ := f
    simp only [Option.some.injEq, Failure.mk.injEq, Except.error.injEq]
    constructor
    · rintro ⟨rfl, rfl, rfl⟩
      exact ⟨rfl, rfl, rfl⟩
    · rintro ⟨rfl, rfl, rfl⟩
      exact ⟨rfl, rfl, rfl⟩

theorem mem_failures_iff : f ∈ r.report.failures ↔
    f.type ∈ r.publicTypes ∧ r.check f.type = .error f.error ∧ f.message = f.error.message := by
  rw [report, List.mem_filterMap]
  constructor
  · rintro ⟨t, ht, hf⟩
    obtain ⟨rfl, hcheck⟩ := failure?_eq_some_iff.1 hf
    exact ⟨ht, hcheck⟩
  · rintro ⟨ht, hcheck⟩
    exact ⟨f.type, ht, failure?_eq_some_iff.2 ⟨rfl, hcheck⟩⟩

/-- The types that fail stand in the report in the order in which they are checked. -/
theorem types_filterMap_failure? (r : Registry α γ) (ts : List TypeName) :
    (ts.filterMap r.failure?).map (·.type) = ts.filter fun t => !(r.check t).isOk := by
  induction ts with
  | nil => rfl
  | cons t ts ih =>
    cases hf : r.failure? t with
    | none =>
      have hcheck := failure?_eq_none_iff.1 hf
      simp [hf, hcheck, Except.isOk, Except.toBool, ih]
    | some f =>
      obtain ⟨rfl, hcheck, _⟩ := failure?_eq_some_iff.1 hf
      simp [hf, hcheck, Except.isOk, Except.toBool, ih]

/-- A check fails with an error about the type that is checked. -/
theorem type_of_check {e : RegistryError} (hr : r.WellFormed) (h : r.check t = .error e) :
    e.type = t :=
  (breaks_of_check hr h).type_eq

/-! ### The sweeps -/

/-- What is read off a list of failures by a sweep that stops at the first. -/
theorem forM_check_eq (r : Registry α γ) (ts : List TypeName) : ts.forM r.check =
    match ts.filterMap r.failure? with
    | [] => .ok ()
    | f :: _ => .error f.error := by
  induction ts with
  | nil => rfl
  | cons t ts ih =>
    rw [List.forM_eq_forM, List.forM_cons]
    cases hf : r.failure? t with
    | none =>
      rw [List.filterMap_cons_none hf, failure?_eq_none_iff.1 hf]
      exact ih
    | some f =>
      rw [List.filterMap_cons_some hf, (failure?_eq_some_iff.1 hf).2.1]
      rfl

theorem validate_eq_toExcept (r : Registry α γ) : r.validate = r.report.toExcept :=
  forM_check_eq r r.publicTypes

/-- A sweep succeeds exactly if there is nothing to report. -/
theorem validate_eq_ok_iff_failures : r.validate = .ok () ↔ r.report.failures = [] := by
  rw [validate_eq_toExcept, Report.toExcept]
  cases r.report.failures with
  | nil => simp
  | cons f fs => simp

theorem isOk_report_iff : r.report.isOk ↔ r.validate = .ok () := by
  rw [validate_eq_ok_iff_failures, Report.isOk, List.isEmpty_iff]

/-- The report of a registry: how many public types there are, and those that fail their own check,
each once and in order, each with its error and what that says. -/
structure Report.Tells (p : Report) (r : Registry α γ) : Prop where
  checked : p.checked = r.publicTypes.length
  types : p.failures.map (·.type) = r.publicTypes.filter fun t => !(r.check t).isOk
  once : (p.failures.map (·.type)).Nodup
  error : ∀ f ∈ p.failures, r.check f.type = .error f.error
  type : ∀ f ∈ p.failures, f.error.type = f.type
  message : ∀ f ∈ p.failures, f.message = f.error.message

theorem report_tells (hr : r.WellFormed) : r.report.Tells r where
  checked := rfl
  types := types_filterMap_failure? r r.publicTypes
  once := by
    rw [report, types_filterMap_failure?]
    exact hr.publicTypes_nodup.filter _
  error f hf := (mem_failures_iff.1 hf).2.1
  type f hf := type_of_check hr (mem_failures_iff.1 hf).2.1
  message f hf := (mem_failures_iff.1 hf).2.2

end TypeFamily.Registry
