import TypeFamily.Proofs.Registry.Check
import TypeFamily.Proofs.Registry.Family
import TypeFamily.Proofs.Registry.Invariant

/-!
The rule that validation enforces, told by declared steps and registrations alone. A public type
must be below the root; an implementation of its own must be below the root, the type and every view
attached to the type, and without one the type must be managed and have exactly one ancestor in the
family to inherit from. A sweep succeeds exactly when every public type keeps the rule, and it fails
with the first condition that the first breaker breaks.
-/

namespace TypeFamily.Registry

variable {α γ : Type}

/-! ### The rule -/

/-- `own` is registered for exactly `t`. -/
def Owns (r : Registry α γ) (t : TypeName) (own : ImplementationEntry α) : Prop :=
  own ∈ r.implementations ∧ own.type = t

/-- `o` is a strict ancestor of `t` in the family and has an implementation to hand down. -/
structure Offers (r : Registry α γ) (t o : TypeName) : Prop where
  above : r.graph.StrictlyBelow t o
  family : r.graph.Below o r.root
  registered : ∃ own, r.Owns o own

/-- `own` is below all that an implementation of `t` has to be below. -/
structure Fits (r : Registry α γ) (t : TypeName) (own : ImplementationEntry α) : Prop where
  root : r.graph.Below own.name r.root
  type : r.graph.Below own.name t
  views : ∀ v ∈ r.viewEntries t, r.graph.Below own.name v.view

/-- The rule for one public type. -/
def Lawful (r : Registry α γ) (p : TypeName) : Prop :=
  r.graph.Below p r.root ∧
    ((∃ own, r.Owns p own ∧ r.Fits p own) ∨
      (∀ own, ¬ r.Owns p own) ∧ r.graph.isManaged p ∧ ∃! o, r.Offers p o)

/-- The first condition of the rule that `p` breaks, as the error that tells of it. -/
inductive Breaks (r : Registry α γ) (p : TypeName) : RegistryError → Prop
  | family (h : ¬ r.graph.Below p r.root) : Breaks r p (.notInFamily p r.root)
  | root {own} (hp : r.graph.Below p r.root) (hown : r.Owns p own)
      (h : ¬ r.graph.Below own.name r.root) :
      Breaks r p (.invalidImplementation own.name p (.notAssignable r.root))
  | type {own} (hp : r.graph.Below p r.root) (hown : r.Owns p own)
      (hroot : r.graph.Below own.name r.root) (h : ¬ r.graph.Below own.name p) :
      Breaks r p (.invalidImplementation own.name p (.notSubtype p))
  | view {own v earlier later} (hp : r.graph.Below p r.root) (hown : r.Owns p own)
      (hroot : r.graph.Below own.name r.root) (htype : r.graph.Below own.name p)
      (hviews : r.viewEntries p = earlier ++ v :: later)
      (hearlier : ∀ w ∈ earlier, r.graph.Below own.name w.view)
      (h : ¬ r.graph.Below own.name v.view) :
      Breaks r p (.incompatibleInternalView p own.name v.view own.source v.source)
  | none (hp : r.graph.Below p r.root) (hown : ∀ own, ¬ r.Owns p own)
      (h : ∀ o, ¬ r.Offers p o) : Breaks r p (.noDefaultImplementation p)
  | several {o o'} (hp : r.graph.Below p r.root) (hown : ∀ own, ¬ r.Owns p own)
      (ho : r.Offers p o) (ho' : r.Offers p o') (h : o ≠ o') :
      Breaks r p (.ambiguousImplementation p (r.candidates p))
  | unmanaged {o} (hp : r.graph.Below p r.root) (hown : ∀ own, ¬ r.Owns p own)
      (ho : r.Offers p o) (honly : ∀ o', r.Offers p o' → o' = o) (h : ¬ r.graph.isManaged p) :
      Breaks r p (.unmanagedExtension p o)

variable {r : Registry α γ} {p t o : TypeName} {own : ImplementationEntry α} {found : Resolution}
  {e : RegistryError}

theorem Breaks.type_eq (h : r.Breaks p e) : e.type = p := by
  cases h <;> rfl

/-! ### Candidates -/

theorem implementation?_eq_some_iff (hr : r.WellFormed) :
    r.implementation? t = some own ↔ r.Owns t own :=
  Keyed.find?_eq_some_iff hr.implementations_nodup

theorem implementation?_eq_none_iff (hr : r.WellFormed) :
    r.implementation? t = none ↔ ∀ own, ¬ r.Owns t own := by
  simp only [← implementation?_eq_some_iff hr, Option.eq_none_iff_forall_ne_some]

theorem mem_familyAncestors_iff (hr : r.WellFormed) :
    o ∈ r.graph.familyAncestors t r.root ↔ r.graph.StrictlyBelow t o ∧ r.graph.Below o r.root := by
  rw [TypeGraph.familyAncestors, List.mem_filter, hr.acyclic.mem_ancestors_iff,
    TypeGraph.isAssignable_iff]

/-- The owners among which a type can inherit: the ancestors in the family that own something, in
the order of the walk. -/
theorem owners_candidates (r : Registry α γ) (t : TypeName) :
    (r.candidates t).map (·.owner) =
      (r.graph.familyAncestors t r.root).filter r.hasImplementation := by
  rw [candidates]
  induction r.graph.familyAncestors t r.root with
  | nil => rfl
  | cons a as ih =>
    cases ha : r.implementation? a with
    | none => simp [hasImplementation, ha, ih]
    | some own =>
      have howner : own.resolution.owner = a := (Keyed.mem_of_find?_eq_some ha).2
      simp [hasImplementation, ha, ih, howner]

theorem mem_owners_candidates_iff (hr : r.WellFormed) :
    o ∈ (r.candidates t).map (·.owner) ↔ r.Offers t o := by
  rw [owners_candidates, List.mem_filter, mem_familyAncestors_iff hr, hasImplementation,
    Option.isSome_iff_exists]
  simp only [implementation?_eq_some_iff hr]
  exact ⟨fun h => ⟨h.1.1, h.1.2, h.2⟩, fun h => ⟨⟨h.above, h.family⟩, h.registered⟩⟩

theorem nodup_owners_candidates (r : Registry α γ) (t : TypeName) :
    ((r.candidates t).map (·.owner)).Nodup := by
  rw [owners_candidates]
  exact List.Nodup.filter _ (List.Nodup.filter _ TypeGraph.nodup_walk)

/-- A candidate is what an offering ancestor owns. -/
theorem mem_candidates_iff_offers (hr : r.WellFormed) : found ∈ r.candidates t ↔
    r.Offers t found.owner ∧ ∃ own, r.Owns found.owner own ∧ own.resolution = found := by
  constructor
  · intro h
    refine ⟨(mem_owners_candidates_iff hr).1 (List.mem_map_of_mem h), ?_⟩
    obtain ⟨a, _, own, hown, rfl⟩ := mem_candidates_iff.1 h
    have howns := (implementation?_eq_some_iff hr).1 hown
    exact ⟨own, ⟨howns.1, rfl⟩, rfl⟩
  · rintro ⟨hoffers, own, hown, hfound⟩
    refine mem_candidates_iff.2 ⟨found.owner, ?_, own, ?_, hfound⟩
    · exact (mem_familyAncestors_iff hr).2 ⟨hoffers.above, hoffers.family⟩
    · exact (implementation?_eq_some_iff hr).2 hown

/-- How many candidates there are, told by who offers. -/
theorem candidates_spec (hr : r.WellFormed) (t : TypeName) :
    match r.candidates t with
    | [] => ∀ o, ¬ r.Offers t o
    | [only] => r.Offers t only.owner ∧ ∀ o, r.Offers t o → o = only.owner
    | a :: b :: _ => r.Offers t a.owner ∧ r.Offers t b.owner ∧ a.owner ≠ b.owner := by
  have offers : ∀ o, r.Offers t o ↔ o ∈ (r.candidates t).map (·.owner) := fun o =>
    (mem_owners_candidates_iff hr).symm
  have nodup := nodup_owners_candidates r t
  rcases hc : r.candidates t with _ | ⟨a, _ | ⟨b, rest⟩⟩
  · simp [offers, hc]
  · simp [offers, hc]
  · rw [hc, List.map_cons, List.map_cons, List.nodup_cons] at nodup
    refine ⟨by simp [offers, hc], by simp [offers, hc], fun hab => nodup.1 ?_⟩
    rw [hab]
    exact List.mem_cons_self

theorem candidates_eq_nil (hr : r.WellFormed) (h : ∀ o, ¬ r.Offers t o) : r.candidates t = [] := by
  have spec := candidates_spec hr t
  rcases hc : r.candidates t with _ | ⟨a, _ | ⟨b, rest⟩⟩
  · rfl
  · rw [hc] at spec
    exact absurd spec.1 (h a.owner)
  · rw [hc] at spec
    exact absurd spec.1 (h a.owner)

theorem candidates_eq_singleton (hr : r.WellFormed) (ho : r.Offers t o)
    (honly : ∀ o', r.Offers t o' → o' = o) : ∃ only, r.candidates t = [only] ∧ only.owner = o := by
  have spec := candidates_spec hr t
  rcases hc : r.candidates t with _ | ⟨a, _ | ⟨b, rest⟩⟩
  · rw [hc] at spec
    exact absurd ho (spec o)
  · rw [hc] at spec
    exact ⟨a, rfl, honly _ spec.1⟩
  · rw [hc] at spec
    exact absurd ((honly _ spec.1).trans (honly _ spec.2.1).symm) spec.2.2

theorem candidates_eq_several {o' : TypeName} (hr : r.WellFormed) (ho : r.Offers t o)
    (ho' : r.Offers t o') (h : o ≠ o') : ∃ a b rest, r.candidates t = a :: b :: rest := by
  have spec := candidates_spec hr t
  rcases hc : r.candidates t with _ | ⟨a, _ | ⟨b, rest⟩⟩
  · rw [hc] at spec
    exact absurd ho (spec o)
  · rw [hc] at spec
    exact absurd ((spec.2 _ ho).trans (spec.2 _ ho').symm) h
  · exact ⟨a, b, rest, rfl⟩

/-- Exactly one ancestor offers something where a type without an implementation of its own
resolves. -/
theorem exists_resolve_iff (hr : r.WellFormed) (hnone : r.implementation? t = none) :
    (∃ found, r.resolve t = .ok found) ↔ ∃! o, r.Offers t o := by
  simp only [resolve_of_none hnone, settle_eq_ok_iff]
  constructor
  · rintro ⟨found, hc⟩
    have spec := candidates_spec hr t
    rw [hc] at spec
    exact ⟨found.owner, spec⟩
  · rintro ⟨o, ho, honly⟩
    obtain ⟨only, hc, _⟩ := candidates_eq_singleton hr ho honly
    exact ⟨only, hc⟩

/-! ### One public type -/

theorem serves_iff_fits : r.Serves t own ↔ r.Fits t own := by
  simp only [serves_iff, TypeGraph.isAssignable_iff]
  exact ⟨fun h => ⟨h.1.1, h.1.2, h.2⟩, fun h => ⟨⟨h.root, h.type⟩, h.views⟩⟩

theorem check_eq_ok_iff_lawful (hr : r.WellFormed) : r.check p = .ok () ↔ r.Lawful p := by
  rw [check_eq_ok_iff, TypeGraph.isAssignable_iff, Lawful]
  simp only [implementation?_eq_some_iff hr, serves_iff_fits]
  refine and_congr_right fun _ => or_congr_right ?_
  rw [← implementation?_eq_none_iff hr]
  exact and_congr_right fun hnone => and_congr_right fun _ => exists_resolve_iff hr hnone

theorem unmetView?_eq_some_iff {v : ViewEntry} : r.unmetView? t own = some v ↔
    ¬ r.graph.Below own.name v.view ∧ ∃ earlier later,
      r.viewEntries t = earlier ++ v :: later ∧ ∀ w ∈ earlier, r.graph.Below own.name w.view := by
  simp [unmetView?, List.find?_eq_some_iff_append, ← TypeGraph.isAssignable_iff]

/-- What is found wrong with an implementation of its own is the first thing that is. -/
theorem breaks_of_checkOwn (hp : r.graph.Below p r.root) (hown : r.Owns p own)
    (h : r.checkOwn p own = .error e) : r.Breaks p e := by
  rw [checkOwn, ownDefect?] at h
  by_cases hroot : r.graph.isAssignable r.root own.name
  · by_cases htype : r.graph.isAssignable p own.name
    · simp only [hroot, htype, Bool.not_true, Bool.false_eq_true, if_false] at h
      rw [TypeGraph.isAssignable_iff] at hroot htype
      cases hv : r.unmetView? p own with
      | none => simp [hv] at h
      | some v =>
        obtain ⟨hunmet, earlier, later, hviews, hearlier⟩ := unmetView?_eq_some_iff.1 hv
        obtain rfl : _ = e := by simpa [hv] using h
        exact .view hp hown hroot htype hviews hearlier hunmet
    · obtain rfl : _ = e := by simpa [hroot, htype] using h
      rw [TypeGraph.isAssignable_iff] at hroot htype
      exact .type hp hown hroot htype
  · obtain rfl : _ = e := by simpa [hroot] using h
    rw [TypeGraph.isAssignable_iff] at hroot
    exact .root hp hown hroot

/-- What is found wrong with inheriting is the first thing that is. -/
theorem breaks_of_checkInherited (hr : r.WellFormed) (hp : r.graph.Below p r.root)
    (hnone : r.implementation? p = none) (h : r.checkInherited p = .error e) : r.Breaks p e := by
  have hown := (implementation?_eq_none_iff hr).1 hnone
  have spec := candidates_spec hr p
  rw [checkInherited, resolve, hnone] at h
  rcases hc : r.candidates p with _ | ⟨a, _ | ⟨b, rest⟩⟩
  · rw [hc] at spec
    obtain rfl : _ = e := by simpa [hc] using h
    exact .none hp hown spec
  · rw [hc] at spec
    by_cases hm : r.graph.isManaged p
    · simp [hc, hm] at h
    · obtain rfl : _ = e := by simpa [hc, hm] using h
      exact .unmanaged hp hown spec.1 spec.2 hm
  · rw [hc] at spec
    obtain rfl : .ambiguousImplementation p (r.candidates p) = e := by simpa [hc] using h
    exact .several hp hown spec.1 spec.2.1 spec.2.2

theorem breaks_of_check (hr : r.WellFormed) (h : r.check p = .error e) : r.Breaks p e := by
  rw [check] at h
  by_cases hp : r.graph.isAssignable r.root p
  · have hbelow := TypeGraph.isAssignable_iff.1 hp
    cases hown : r.implementation? p with
    | some own =>
      refine breaks_of_checkOwn hbelow ((implementation?_eq_some_iff hr).1 hown) ?_
      simpa [hp, hown] using h
    | none =>
      refine breaks_of_checkInherited hr hbelow hown ?_
      simpa [hp, hown] using h
  · obtain rfl : _ = e := by simpa [hp] using h
    exact .family (mt TypeGraph.isAssignable_iff.2 hp)

/-- Each condition that can be the first to be broken is the one that is reported. -/
theorem check_of_breaks (hr : r.WellFormed) (h : r.Breaks p e) : r.check p = .error e := by
  have inherited (hp : r.graph.Below p r.root) (hown : ∀ own, ¬ r.Owns p own) :
      r.check p = r.checkInherited p ∧ r.implementation? p = none := by
    have hnone := (implementation?_eq_none_iff hr).2 hown
    rw [← TypeGraph.isAssignable_iff] at hp
    simp [check, hp, hnone]
  have owned {own} (hp : r.graph.Below p r.root) (hown : r.Owns p own) :
      r.check p = r.checkOwn p own := by
    rw [← TypeGraph.isAssignable_iff] at hp
    simp [check, hp, (implementation?_eq_some_iff hr).2 hown]
  cases h with
  | family h =>
    rw [← TypeGraph.isAssignable_iff] at h
    simp [check, h]
  | root hp hown h =>
    rw [← TypeGraph.isAssignable_iff] at h
    simp [owned hp hown, checkOwn, ownDefect?, h]
  | type hp hown hroot h =>
    rw [← TypeGraph.isAssignable_iff] at hroot h
    simp [owned hp hown, checkOwn, ownDefect?, hroot, h]
  | view hp hown hroot htype hviews hearlier h =>
    have hunmet := unmetView?_eq_some_iff.2 ⟨h, _, _, hviews, hearlier⟩
    rw [← TypeGraph.isAssignable_iff] at hroot htype
    simp [owned hp hown, checkOwn, ownDefect?, hroot, htype, hunmet]
  | none hp hown h =>
    obtain ⟨hcheck, hnone⟩ := inherited hp hown
    simp [hcheck, checkInherited, resolve, hnone, candidates_eq_nil hr h]
  | several hp hown ho ho' h =>
    obtain ⟨hcheck, hnone⟩ := inherited hp hown
    obtain ⟨a, b, rest, hc⟩ := candidates_eq_several hr ho ho' h
    simp [hcheck, checkInherited, resolve, hnone, hc]
  | unmanaged hp hown ho honly h =>
    obtain ⟨hcheck, hnone⟩ := inherited hp hown
    obtain ⟨only, hc, rfl⟩ := candidates_eq_singleton hr ho honly
    simp [hcheck, checkInherited, resolve, hnone, hc, h]

theorem check_eq_error_iff_breaks (hr : r.WellFormed) : r.check p = .error e ↔ r.Breaks p e :=
  ⟨breaks_of_check hr, check_of_breaks hr⟩

/-! ### The sweep -/

theorem Reachable.wellFormed (hr : r.Reachable) : r.WellFormed := by
  obtain ⟨displayName, root, calls, rfl⟩ := hr
  exact (wellFormed_empty displayName root).run calls

/-- CORRECT: validation succeeds exactly when every public type keeps the rule, and it fails with an
error exactly when that tells of the first condition that is broken by the first public type, in the
order of registration, that does not keep it. -/
theorem validate_iff_lawful (hr : r.Reachable) :
    (r.validate = .ok () ↔ ∀ p ∈ r.publicTypes, r.Lawful p) ∧
    (∀ e, r.validate = .error e ↔ ∃ earlier p later, r.publicTypes = earlier ++ p :: later ∧
      (∀ q ∈ earlier, r.Lawful q) ∧ r.Breaks p e) ∧
    (∀ p e, r.Breaks p e → e.type = p ∧ ¬ r.Lawful p) ∧
    (∀ p found, found ∈ r.candidates p ↔
      r.Offers p found.owner ∧ ∃ own, r.Owns found.owner own ∧ own.resolution = found) ∧
    ∀ p, ((r.candidates p).map (·.owner)).Nodup := by
  have wf := hr.wellFormed
  refine ⟨?_, fun e => ?_, fun p e h => ⟨h.type_eq, fun hp => ?_⟩,
    fun p found => mem_candidates_iff_offers wf, nodup_owners_candidates r⟩
  · simp only [validate_eq_ok_iff, check_eq_ok_iff_lawful wf]
  · simp only [validate, forM_eq_error_iff, check_eq_ok_iff_lawful wf, check_eq_error_iff_breaks wf]
  · have herror := (check_eq_error_iff_breaks wf).2 h
    rw [(check_eq_ok_iff_lawful wf).2 hp] at herror
    cases herror

/-- `Ring`, public before it, inherits from `Circle`, which has an implementation that extends the
first of the two views on `Circle` but not the second. -/
def viewedCalls : List (Call Unit Unit) :=
  [.registerPublicType { name := ⟨"Ring"⟩, supertypes := [⟨"Circle"⟩], managed := true },
    .registerPublicType { name := ⟨"Circle"⟩, supertypes := [⟨"Shape"⟩] },
    .registerImplementation ⟨"Circle"⟩ (some ⟨"core"⟩)
      ⟨{ name := ⟨"Disc"⟩, supertypes := [⟨"Circle"⟩], kind := .concrete }, some ()⟩,
    .registerInternalView ⟨"Circle"⟩ none ⟨"Shape"⟩,
    .registerInternalView ⟨"Circle"⟩ (some ⟨"plugin"⟩) ⟨"Resizable"⟩]

def viewedRegistry : Registry Unit Unit :=
  (empty "shapes" ⟨"Shape"⟩).run viewedCalls

/-- The sweep passes over `Ring` and blames `Circle` for the second view. -/
theorem validate_iff_lawful_viewed :
    viewedRegistry.Reachable ∧ viewedRegistry.Lawful ⟨"Ring"⟩ ∧
      viewedRegistry.Breaks ⟨"Circle"⟩ (.incompatibleInternalView ⟨"Circle"⟩ ⟨"Disc"⟩ ⟨"Resizable"⟩
        (some ⟨"core"⟩) (some ⟨"plugin"⟩)) := by
  have reachable : viewedRegistry.Reachable := ⟨_, _, _, rfl⟩
  have publicTypes : viewedRegistry.publicTypes = [⟨"Ring"⟩, ⟨"Circle"⟩] := by cbv
  have invalid : viewedRegistry.validate = .error (.incompatibleInternalView ⟨"Circle"⟩ ⟨"Disc"⟩
      ⟨"Resizable"⟩ (some ⟨"core"⟩) (some ⟨"plugin"⟩)) := by cbv
  obtain ⟨_, first, about, _⟩ := validate_iff_lawful reachable
  obtain ⟨earlier, p, later, hsplit, lawful, breaks⟩ := (first _).1 invalid
  obtain rfl : (⟨"Circle"⟩ : TypeName) = p := (about p _ breaks).1
  refine ⟨reachable, lawful _ ?_, breaks⟩
  -- `Ring` is the first public type, so what comes before `Circle` starts with it
  rw [publicTypes] at hsplit
  cases earlier with
  | nil => simp at hsplit
  | cons q earlier => simp [(List.cons.inj hsplit).1]

end TypeFamily.Registry
