import Mathlib.Data.List.Perm.Subperm
import TypeFamily.Proofs.Registry.Resolution

/-!
What later registrations do to an answer. All that resolution looks at in a registry stands in every
registry that grows out of it, so the candidates of a type can only become more. An answer is
therefore kept, or it turns into an ambiguity that lists it; no type comes to inherit from another
owner than before, or from none.
-/

namespace TypeFamily.Registry

variable {α γ : Type} {r r' : Registry α γ} {t o u : TypeName} {own : ImplementationEntry α}
  {cs cs' : List Resolution} {found found' : Resolution}

/-! ### More candidates -/

/-- The only candidate stays the only one, or becomes one of several. -/
theorem settle_of_subset_of_ok (h : cs ⊆ cs') (hok : settle t cs = .ok found) :
    settle t cs' = .ok found ∨
      ∃ several, settle t cs' = .error (.ambiguousImplementation t several) ∧ found ∈ several := by
  obtain rfl := settle_eq_ok_iff.1 hok
  have hmem : found ∈ cs' := h List.mem_cons_self
  rcases cs' with _ | ⟨a, _ | ⟨b, rest⟩⟩
  · simp at hmem
  · rw [List.mem_singleton.1 hmem]
    exact .inl rfl
  · exact .inr ⟨_, rfl, hmem⟩

/-- Where there were several candidates, there are. -/
theorem settle_of_subset_of_ambiguous (h : cs ⊆ cs') (nodup : cs.Nodup) {several : List Resolution}
    (hseveral : settle t cs = .error (.ambiguousImplementation u several)) :
    ∃ several', settle t cs' = .error (.ambiguousImplementation u several') ∧
      several ⊆ several' := by
  obtain ⟨rfl, rfl, hlength⟩ := settle_eq_ambiguous_iff.1 hseveral
  have more : several.length ≤ cs'.length := (List.subperm_of_subset nodup h).length_le
  exact ⟨cs', settle_of_one_lt (Nat.lt_of_lt_of_le hlength more), h⟩

/-! ### Growing -/

/-- All that resolution looks at in `r` stands in `r'`. -/
structure GrowsTo (r r' : Registry α γ) : Prop where
  root : r'.root = r.root
  graph : r.graph.Within r'.graph
  implementations : ∀ t own, r.implementation? t = some own → r'.implementation? t = some own

theorem growsTo_run (r : Registry α γ) (calls : List (Call α γ)) : r.GrowsTo (r.run calls) where
  root := root_run r calls
  graph := within_run r calls
  implementations _ _ h := implementation?_run h calls

theorem GrowsTo.owns (h : r.GrowsTo r') (hr : r.WellFormed) (hr' : r'.WellFormed)
    (howns : r.Owns t own) : r'.Owns t own :=
  (implementation?_eq_some_iff hr').1 <|
    h.implementations _ _ ((implementation?_eq_some_iff hr).2 howns)

theorem GrowsTo.offers (h : r.GrowsTo r') (hr : r.WellFormed) (hr' : r'.WellFormed)
    (hoffers : r.Offers t o) : r'.Offers t o where
  above := h.graph.strictlyBelow hoffers.above
  family := h.root ▸ h.graph.below hoffers.family
  registered := hoffers.registered.imp fun _ => h.owns hr hr'

theorem GrowsTo.candidates_subset (h : r.GrowsTo r') (hr : r.WellFormed) (hr' : r'.WellFormed)
    (t : TypeName) : r.candidates t ⊆ r'.candidates t := by
  intro found hfound
  obtain ⟨hoffers, own, howns, hresolution⟩ := (mem_candidates_iff_offers hr).1 hfound
  exact (mem_candidates_iff_offers hr').2
    ⟨h.offers hr hr' hoffers, own, h.owns hr hr' howns, hresolution⟩

/-! ### Answers along a run -/

theorem GrowsTo.resolve_of_owns (h : r.GrowsTo r') (hr : r.WellFormed) (howns : r.Owns t own) :
    r'.resolve t = r.resolve t := by
  have hown := (implementation?_eq_some_iff hr).2 howns
  rw [resolve_of_some hown, resolve_of_some (h.implementations _ _ hown)]

theorem owner_of_resolve (howns : r.implementation? t = some own) (h : r.resolve t = .ok found) :
    found.owner = t := by
  rw [resolve_of_some howns] at h
  obtain rfl := Except.ok.inj h
  exact (Keyed.mem_of_find?_eq_some howns).2

/-- CORRECT: whatever is registered afterwards, an implementation of its own stays the answer for a
type. As long as a type owns none, what it inherits stays the answer or is listed in the ambiguity
that takes its place, and an ambiguity stays one and goes on listing what it listed. So no type ever
loses its answer for want of a candidate, or inherits from another owner instead. -/
theorem resolve_never_redirected (hr : r.Reachable) (calls : List (Call α γ)) (t : TypeName) :
    (∀ own, r.Owns t own → (r.run calls).resolve t = r.resolve t) ∧
    ((∀ own, ¬ (r.run calls).Owns t own) →
      (∀ found, r.resolve t = .ok found →
        (r.run calls).resolve t = .ok found ∨
          ∃ cs, (r.run calls).resolve t = .error (.ambiguousImplementation t cs) ∧ found ∈ cs) ∧
      ∀ u cs, r.resolve t = .error (.ambiguousImplementation u cs) →
        ∃ cs', (r.run calls).resolve t = .error (.ambiguousImplementation u cs') ∧ cs ⊆ cs') ∧
    (∀ u, (r.run calls).resolve t = .error (.noDefaultImplementation u) →
      r.resolve t = .error (.noDefaultImplementation u)) ∧
    ∀ found found', r.resolve t = .ok found → (r.run calls).resolve t = .ok found' →
      found' = found ∨ found'.owner = t := by
  have grows := growsTo_run r calls
  have wf := hr.wellFormed
  have wf' := wf.run calls
  have more := grows.candidates_subset wf wf' t
  -- Owning nothing later is owning nothing now, so both answers are settled by the candidates.
  have settled (h : (r.run calls).implementation? t = none) :
      r.resolve t = settle t (r.candidates t) ∧
        (r.run calls).resolve t = settle t ((r.run calls).candidates t) := by
    refine ⟨resolve_of_none ?_, resolve_of_none h⟩
    refine Option.eq_none_iff_forall_ne_some.2 fun own howns => ?_
    simp [grows.implementations _ _ howns] at h
  refine ⟨fun own howns => grows.resolve_of_owns wf howns, fun hnone => ?_, fun u hu => ?_,
    fun found found' h h' => ?_⟩
  · obtain ⟨now, later⟩ := settled ((implementation?_eq_none_iff wf').2 hnone)
    rw [now, later]
    exact ⟨fun found => settle_of_subset_of_ok more,
      fun u cs => settle_of_subset_of_ambiguous more (nodup_candidates r t)⟩
  · cases hown : (r.run calls).implementation? t with
    | some own => simp [resolve_of_some hown] at hu
    | none =>
      obtain ⟨now, later⟩ := settled hown
      rw [later] at hu
      obtain ⟨rfl, hnil⟩ := settle_eq_none_iff.1 hu
      rw [now]
      exact settle_eq_none_iff.2 ⟨rfl, List.subset_nil.1 (hnil ▸ more)⟩
  · cases hown : (r.run calls).implementation? t with
    | some own => exact .inr (owner_of_resolve hown h')
    | none =>
      obtain ⟨now, later⟩ := settled hown
      rw [now] at h
      rw [later] at h'
      rcases settle_of_subset_of_ok more h with hsame | ⟨cs, hcs, _⟩
      · exact .inl (Except.ok.inj (h'.symm.trans hsame))
      · simp [hcs] at h'

/-- `Ring` inherits from `Named`, and extends a type that is not declared yet. -/
def openRegistry : Registry Unit Unit :=
  (empty "shapes" ⟨"Shape"⟩).run
    [.registerPublicType { name := ⟨"Named"⟩, supertypes := [⟨"Shape"⟩] },
      .registerImplementation ⟨"Named"⟩ none
        ⟨{ name := ⟨"Label"⟩, supertypes := [⟨"Named"⟩], kind := .concrete }, some ()⟩,
      .registerPublicType { name := ⟨"Ring"⟩, supertypes := [⟨"Named"⟩, ⟨"Drawable"⟩] }]

/-- The missing type, with an implementation of its own, after a call that is refused. -/
def drawableCalls : List (Call Unit Unit) :=
  [.declareType { name := ⟨"Ring"⟩ },
    .registerPublicType { name := ⟨"Drawable"⟩, supertypes := [⟨"Shape"⟩] },
    .registerImplementation ⟨"Drawable"⟩ none
      ⟨{ name := ⟨"Brush"⟩, supertypes := [⟨"Drawable"⟩], kind := .concrete }, some ()⟩]

/-- What `Ring` inherited is no longer the answer, and stands among the candidates. -/
theorem resolve_never_redirected_ring :
    openRegistry.Reachable ∧
      openRegistry.resolve ⟨"Ring"⟩ = .ok ⟨⟨"Named"⟩, ⟨"Label"⟩⟩ ∧
      (openRegistry.run drawableCalls).resolve ⟨"Ring"⟩ ≠ .ok ⟨⟨"Named"⟩, ⟨"Label"⟩⟩ ∧
      ∃ cs, (openRegistry.run drawableCalls).resolve ⟨"Ring"⟩ =
        .error (.ambiguousImplementation ⟨"Ring"⟩ cs) ∧ ⟨⟨"Named"⟩, ⟨"Label"⟩⟩ ∈ cs := by
  have reachable : openRegistry.Reachable := ⟨_, _, _, rfl⟩
  have none : (openRegistry.run drawableCalls).implementation? ⟨"Ring"⟩ = none := by cbv
  have inherited : openRegistry.resolve ⟨"Ring"⟩ = .ok ⟨⟨"Named"⟩, ⟨"Label"⟩⟩ := by cbv
  have moved : (openRegistry.run drawableCalls).resolve ⟨"Ring"⟩ ≠ .ok ⟨⟨"Named"⟩, ⟨"Label"⟩⟩ := by
    cbv
    simp
  have unowned := (implementation?_eq_none_iff (reachable.wellFormed.run drawableCalls)).1 none
  have kept := (resolve_never_redirected reachable drawableCalls ⟨"Ring"⟩).2.1 unowned
  exact ⟨reachable, inherited, moved, (kept.1 _ inherited).resolve_left moved⟩

end TypeFamily.Registry
