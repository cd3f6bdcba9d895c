import TypeFamily.Proofs.Manifest.Faithful

/-!
Which manifests are accepted. A check that takes the entries one after another, carries along the
names of the types it has passed and stops at the first flaw finds the flaw that a manifest has, and
accepts the consistent manifests and no others. Implementations are held against the names that were
carried along, but looked up among the types; the two agree on every spelling, since one name stands
for one type.
-/

namespace TypeFamily.Manifest

variable {m : Manifest} {declared : List String} {flaw : Flaw}

/-! ### One entry after another -/

/-- Refuses a blank name. -/
def requireName (key name : String) : Except Flaw Unit := do
  if Text.isBlankText name then throw (.emptyName key)

/-- Checks a type against the names that were declared before it, and declares its own. -/
def checkType (declared : List String) (t : TypeItem) : Except Flaw (List String) := do
  if Text.isBlankText t.name then throw .emptyTypeName
  if Text.trim t.name ∈ declared then throw (.repeatedType t.name)
  if t.supertypes.any Text.isBlankText then throw (.emptySupertype t.name)
  return Text.trim t.name :: declared

/-- Checks an implementation against the names that were declared. -/
def checkImplementation (declared : List String) (i : ImplementationItem) : Except Flaw Unit := do
  requireName "implementations.type" i.type
  requireName "implementations.implementation" i.implementation
  if Text.trim i.implementation ∉ declared then
    throw (.undeclaredImplementation i.implementation i.type)

def checkView (v : ViewItem) : Except Flaw Unit := do
  requireName "views.type" v.type
  requireName "views.view" v.view

def checkFactory (f : FactoryItem) : Except Flaw Unit :=
  requireName "factories.type" f.type

/-- Checks a manifest entry by entry, up to the first flaw. -/
def checkInTurn (m : Manifest) : Except Flaw Unit := do
  if Text.isBlankText m.family.root then throw .emptyRoot
  let declared ← m.types.foldlM checkType []
  m.implementations.forM (checkImplementation declared)
  m.views.forM checkView
  m.factories.forM checkFactory

/-! ### The same flaw -/

/-- The outcome of a check that finds a flaw or none. -/
def outcome : Option Flaw → Except Flaw Unit
  | some flaw => .error flaw
  | none => .ok ()

theorem validate_eq_outcome (m : Manifest) : m.validate = outcome m.flaw? := by
  rw [validate]
  cases m.flaw? <;> rfl

/-- Checks made one after the other find the flaw of the first that has one. -/
theorem outcome_or (first second : Option Flaw) :
    outcome (first.or second) = (do outcome first; outcome second) := by
  cases first <;> rfl

theorem outcome_ite (p : Prop) [Decidable p] (flaw : Flaw) :
    outcome (if p then some flaw else none) = (if p then throw flaw else pure ()) := by
  by_cases h : p
  · simp only [h, if_true]
    rfl
  · simp only [h, if_false]
    rfl

theorem requireName_eq (key name : String) : requireName key name = outcome (blank? key name) := by
  rw [blank?, outcome_ite, requireName]

theorem forM_outcome {ι : Type} {flaw? : ι → Option Flaw} {check : ι → Except Flaw Unit}
    (xs : List ι) (h : ∀ x ∈ xs, check x = outcome (flaw? x)) :
    xs.forM check = outcome (xs.findSome? flaw?) := by
  induction xs with
  | nil => rfl
  | cons x xs ih =>
    obtain ⟨hx, hxs⟩ := List.forall_mem_cons.1 h
    rw [List.forM_eq_forM] at ih
    rw [List.forM_eq_forM, List.forM_cons, hx, ih hxs, ← outcome_or, List.findSome?_cons]
    cases flaw? x <;> rfl

/-- Types without a flaw are all declared in the end. -/
theorem foldlM_checkType (ts : List TypeItem) (declared : List String) :
    ts.foldlM checkType declared =
      (outcome (typesFlaw? declared ts)).map fun _ =>
        (ts.map fun t => Text.trim t.name).reverse ++ declared := by
  induction ts generalizing declared with
  | nil => rfl
  | cons t ts ih =>
    rw [List.foldlM_cons, typesFlaw?, checkType]
    by_cases hname : Text.isBlankText t.name
    · simp only [hname, if_true]
      rfl
    · by_cases hnew : Text.trim t.name ∈ declared
      · simp only [hname, hnew, if_true]
        rfl
      · by_cases hsup : t.supertypes.any Text.isBlankText
        · simp only [hname, hnew, hsup, if_true]
          rfl
        · simp only [hname, hnew, hsup, if_false, List.map_cons, List.reverse_cons,
            List.append_assoc, List.singleton_append]
          exact ih _

theorem checkImplementation_eq (h : ∀ n, n ∈ declared ↔ ∃ t ∈ m.types, Text.trim t.name = n)
    (i : ImplementationItem) : checkImplementation declared i = outcome (m.implementationFlaw? i) := by
  have known : (m.typeItem? i.implementation).isSome ↔ Text.trim i.implementation ∈ declared := by
    rw [typeItem?_isSome_iff, h]
  rw [implementationFlaw?, outcome_or, outcome_or, checkImplementation, requireName_eq,
    requireName_eq]
  by_cases hknown : Text.trim i.implementation ∈ declared
  · simp only [hknown, known.2 hknown, if_true, not_true_eq_false, if_false]
    rfl
  · have hnone : ¬ (m.typeItem? i.implementation).isSome := mt known.1 hknown
    simp only [hknown, hnone, not_false_eq_true, if_true]
    rfl

theorem checkView_eq (v : ViewItem) : checkView v = outcome (viewFlaw? v) := by
  rw [viewFlaw?, outcome_or, checkView, requireName_eq, requireName_eq]

theorem checkFactory_eq (f : FactoryItem) : checkFactory f = outcome (factoryFlaw? f) :=
  requireName_eq _ _

/-- Entry by entry a manifest is accepted, or refused for the flaw that it has. -/
theorem checkInTurn_eq_validate (m : Manifest) : m.checkInTurn = m.validate := by
  have declared : ∀ n, n ∈ (m.types.map fun t => Text.trim t.name).reverse ++ [] ↔
      ∃ t ∈ m.types, Text.trim t.name = n := by simp
  have implementations := forM_outcome m.implementations fun i _ =>
    checkImplementation_eq declared i
  have views := forM_outcome m.views fun v _ => checkView_eq v
  have factories := forM_outcome m.factories fun f _ => checkFactory_eq f
  rw [validate_eq_outcome, flaw?, outcome_or, outcome_or, outcome_or, outcome_or,
    checkInTurn, foldlM_checkType, ← implementations, ← views, ← factories]
  by_cases hroot : Text.isBlankText m.family.root
  · simp only [hroot, if_true]
    rfl
  · simp only [hroot]
    cases typesFlaw? [] m.types with
    | some flaw => rfl
    | none => rfl

/-! ### Exactness -/

/-- CORRECT: a manifest is accepted exactly if it is consistent, whether its flaw is looked for as a
whole or entry by entry. In an accepted one, a type is found by any spelling of its name and is the
only entry of that name, and every implementation is found. -/
theorem validate_exact (m : Manifest) :
    m.checkInTurn = m.validate ∧ (m.validate = .ok () ↔ m.Consistent) ∧
    (m.validate = .ok () →
      (∀ name, m.types.filter (fun t => Text.trim t.name = Text.trim name) =
        (m.typeItem? name).toList) ∧
      ∀ i ∈ m.implementations, ∃ t ∈ m.types, m.typeItem? i.implementation = some t) := by
  refine ⟨m.checkInTurn_eq_validate, validate_eq_ok_iff, fun h => ?_⟩
  have consistent := validate_eq_ok_iff.1 h
  refine ⟨fun name => Keyed.filter_eq_toList_find? consistent.types_nodup, fun i hi => ?_⟩
  obtain ⟨t, ht⟩ := consistent.exists_typeItem? hi
  exact ⟨t, (consistent.typeItem?_eq_some_iff.1 ht).1, ht⟩

/-- `Disc` is found by another spelling than the one it is declared with or implemented by, and is
the only type of its name. -/
theorem validate_exact_spaced :
    let disc : TypeItem := { name := "Disc", supertypes := [" Circle"], kind := .concrete }
    spacedManifest.validate = .ok () ∧
      spacedManifest.types.filter (fun t => Text.trim t.name = Text.trim "\tDisc") = [disc] ∧
      ∃ t ∈ spacedManifest.types, spacedManifest.typeItem? " Disc" = some t := by
  intro disc
  have valid : spacedManifest.validate = .ok () := by rfl
  have found : spacedManifest.typeItem? "\tDisc" = some disc := by cbv
  obtain ⟨_, _, lookup⟩ := validate_exact spacedManifest
  obtain ⟨unique, implementations⟩ := lookup valid
  refine ⟨valid, ?_, ?_⟩
  · rw [unique, found, Option.toList_some]
  · exact implementations { type := "Circle ", implementation := " Disc", source := some "core" }
      List.mem_cons_self

end TypeFamily.Manifest
