import TypeFamily.Proofs.Registry.Check
import TypeFamily.Proofs.Registry.Invariant

/-!
Registries that differ in the order of their entries alone. Declarations, factories and
implementations are found by their keys, the walk along supertypes asks for declarations only, and
names are sorted before they are shown; so such registries resolve, make and refuse alike. Only
validation may stop at a different type, since it takes the public types as they come.
-/

namespace TypeFamily

variable {α γ : Type}

namespace TypeGraph

variable {g g' : TypeGraph}

theorem ancestors_congr (h : ∀ n, g'.find? n = g.find? n) (n : TypeName) :
    g'.ancestors n = g.ancestors n := by
  have hsup : ∀ x, g'.supertypes x = g.supertypes x := fun x => by rw [supertypes, supertypes, h]
  rw [ancestors, ancestors, hsup, walk_congr hsup]

theorem isAssignable_congr (h : ∀ n, g'.find? n = g.find? n) (t n : TypeName) :
    g'.isAssignable t n = g.isAssignable t n := by
  rw [isAssignable, isAssignable, ancestors_congr h]

theorem familyAncestors_congr (h : ∀ n, g'.find? n = g.find? n) (n root : TypeName) :
    g'.familyAncestors n root = g.familyAncestors n root := by
  rw [familyAncestors, familyAncestors, ancestors_congr h]
  exact List.filter_congr fun m _ => isAssignable_congr h root m

theorem isManaged_congr (h : ∀ n, g'.find? n = g.find? n) (n : TypeName) :
    g'.isManaged n = g.isManaged n := by
  rw [isManaged, isManaged, h]

end TypeGraph

namespace Registry

/-! ### Names in order -/

theorem pairwise_mergeSort (names : List String) :
    (names.mergeSort (· ≤ ·)).Pairwise (· ≤ ·) := by
  have trans : ∀ a b c : String, decide (a ≤ b) → decide (b ≤ c) → decide (a ≤ c) := by
    intro a b c hab hbc
    rw [decide_eq_true_iff] at hab hbc ⊢
    exact String.le_trans hab hbc
  have total : ∀ a b : String, decide (a ≤ b) || decide (b ≤ a) := by
    intro a b
    simpa using String.le_total a b
  simpa using List.pairwise_mergeSort trans total names

/-- Sorting forgets in which order the names came. -/
theorem mergeSort_perm_eq {names names' : List String} (h : names.Perm names') :
    names'.mergeSort (· ≤ ·) = names.mergeSort (· ≤ ·) := by
  have perm : (names'.mergeSort (· ≤ ·)).Perm (names.mergeSort (· ≤ ·)) :=
    (List.mergeSort_perm _ _).trans (h.symm.trans (List.mergeSort_perm _ _).symm)
  exact perm.eq_of_pairwise (fun a b _ _ hab hba => String.le_antisymm hab hba)
    (pairwise_mergeSort _) (pairwise_mergeSort _)

theorem tellApart_perm {types types' : List TypeName} (h : types.Perm types') :
    tellApart types' = tellApart types := by
  rw [tellApart, tellApart]
  refine mergeSort_perm_eq ((h.map _).trans (List.Perm.of_eq ?_))
  refine List.map_congr_left fun t _ => ?_
  rw [h.countP_eq]

/-! ### Alike registries -/

/-- The same declarations, public types, factories and implementations, and the same views on each
type, each with its source, in whatever order. -/
structure Alike (r r' : Registry α γ) : Prop where
  displayName : r'.displayName = r.displayName
  root : r'.root = r.root
  decls : r.graph.decls.Perm r'.graph.decls
  publicTypes : r.publicTypes.Perm r'.publicTypes
  factories : r.factories.Perm r'.factories
  implementations : r.implementations.Perm r'.implementations
  views : ∀ t, (r.viewEntries t).Perm (r'.viewEntries t)

variable {r r' : Registry α γ} {t : TypeName} {own : ImplementationEntry α}

namespace Alike

theorem find? (h : r.Alike r') (hr : r.WellFormed) (n : TypeName) :
    r'.graph.find? n = r.graph.find? n :=
  Keyed.find?_perm hr.decls_nodup h.decls

theorem isAssignable (h : r.Alike r') (hr : r.WellFormed) (t n : TypeName) :
    r'.graph.isAssignable t n = r.graph.isAssignable t n :=
  TypeGraph.isAssignable_congr (h.find? hr) t n

theorem factory? (h : r.Alike r') (hr : r.WellFormed) (t : TypeName) :
    r'.factory? t = r.factory? t :=
  Keyed.find?_perm hr.factories_nodup h.factories

theorem implementation? (h : r.Alike r') (hr : r.WellFormed) (t : TypeName) :
    r'.implementation? t = r.implementation? t :=
  Keyed.find?_perm hr.implementations_nodup h.implementations

theorem candidates (h : r.Alike r') (hr : r.WellFormed) (t : TypeName) :
    r'.candidates t = r.candidates t := by
  rw [Registry.candidates, Registry.candidates, h.root,
    TypeGraph.familyAncestors_congr (h.find? hr)]
  simp only [h.implementation? hr]

theorem resolve (h : r.Alike r') (hr : r.WellFormed) (t : TypeName) :
    r'.resolve t = r.resolve t := by
  rw [Registry.resolve, Registry.resolve, h.implementation? hr, h.candidates hr]

theorem newDefaultInstance (h : r.Alike r') (hr : r.WellFormed) (t : TypeName) :
    r'.newDefaultInstance t = r.newDefaultInstance t := by
  rw [Registry.newDefaultInstance, Registry.newDefaultInstance, h.resolve hr]
  simp only [h.implementation? hr]

theorem knownNames (h : r.Alike r') : r'.knownNames = r.knownNames :=
  tellApart_perm (h.factories.map _)

theorem create (h : r.Alike r') (hr : r.WellFormed) (t : TypeName) (context : γ) (name : String) :
    r'.create t context name = r.create t context name := by
  rw [Registry.create, Registry.create, h.factory? hr, h.displayName, h.knownNames]

theorem serves_iff (h : r.Alike r') (hr : r.WellFormed) : r'.Serves t own ↔ r.Serves t own := by
  have views : ∀ v, v ∈ r'.viewEntries t ↔ v ∈ r.viewEntries t := fun v => (h.views t).mem_iff.symm
  rw [Registry.serves_iff, Registry.serves_iff, h.root]
  simp only [h.isAssignable hr, views]

theorem check_eq_ok_iff (h : r.Alike r') (hr : r.WellFormed) :
    r'.check t = .ok () ↔ r.check t = .ok () := by
  rw [Registry.check_eq_ok_iff, Registry.check_eq_ok_iff, h.isAssignable hr, h.root,
    h.implementation? hr, h.resolve hr, TypeGraph.isManaged_congr (h.find? hr)]
  simp only [h.serves_iff hr]

/-- The sweep fails on one exactly when it fails on the other. -/
theorem validate_eq_ok_iff (h : r.Alike r') (hr : r.WellFormed) :
    r'.validate = .ok () ↔ r.validate = .ok () := by
  rw [Registry.validate_eq_ok_iff, Registry.validate_eq_ok_iff]
  refine forall_congr' fun t => ?_
  rw [h.publicTypes.mem_iff, h.check_eq_ok_iff hr]

end Alike

end Registry

end TypeFamily
