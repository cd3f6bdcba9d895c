import TypeFamily.Proofs.Registry.Invariant

/-!
What is in a registry after a list of calls that were all accepted: what was there before and what
each call was there to add. Lists of entries keep the order of the calls; of declarations and public
types a repeat adds nothing, so only membership is told.
-/

namespace TypeFamily

variable {α γ : Type}

namespace Registry

variable {s s' r : Registry α γ} {c : Call α γ} {calls : List (Call α γ)} {g g' : TypeGraph}
  {d : TypeDecl}

/-! ### Accepted lists -/

theorem applyAll_nil_eq_ok_iff : s.applyAll [] = .ok r ↔ r = s := by
  rw [applyAll, List.foldlM_nil, pure_ok_iff]

theorem applyAll_cons_eq_ok_iff :
    s.applyAll (c :: calls) = .ok r ↔ ∃ s', s.apply c = .ok s' ∧ s'.applyAll calls = .ok r := by
  rw [applyAll, List.foldlM_cons, bind_ok_iff]
  rfl

theorem applyAll_append_eq_ok_iff {before after : List (Call α γ)} :
    s.applyAll (before ++ after) = .ok r ↔
      ∃ s', s.applyAll before = .ok s' ∧ s'.applyAll after = .ok r := by
  rw [applyAll, List.foldlM_append, bind_ok_iff]
  rfl

/-- Where every call is accepted, none is passed over. -/
theorem run_of_applyAll (h : s.applyAll calls = .ok r) : s.run calls = r := by
  induction calls generalizing s with
  | nil => exact (applyAll_nil_eq_ok_iff.1 h).symm
  | cons c calls ih =>
    obtain ⟨s', hc, hrest⟩ := applyAll_cons_eq_ok_iff.1 h
    have hstep : s.step c = s' := by rw [step, hc]
    rw [run, List.foldl_cons, hstep]
    exact ih hrest

theorem exists_apply_of_mem (h : s.applyAll calls = .ok r) (hc : c ∈ calls) :
    ∃ s₁ s₂ : Registry α γ, s₁.apply c = .ok s₂ := by
  induction calls generalizing s with
  | nil => simp at hc
  | cons c' calls ih =>
    obtain ⟨s', hc', hrest⟩ := applyAll_cons_eq_ok_iff.1 h
    rcases List.mem_cons.1 hc with rfl | hc
    · exact ⟨s, s', hc'⟩
    · exact ih hrest hc

/-! ### Content -/

/-- `r` holds what `s` held and what the calls add, and nothing else. -/
structure Collects (s : Registry α γ) (calls : List (Call α γ)) (r : Registry α γ) : Prop where
  displayName : r.displayName = s.displayName
  root : r.root = s.root
  decls : ∀ d, d ∈ r.graph.decls ↔ d ∈ s.graph.decls ∨ ∃ c ∈ calls, c.decl? = some d
  publicTypes : ∀ t, t ∈ r.publicTypes ↔ t ∈ s.publicTypes ∨ ∃ c ∈ calls, c.publicType? = some t
  factories : r.factories = s.factories ++ calls.filterMap Call.factory?
  implementations : r.implementations = s.implementations ++ calls.filterMap Call.implementation?
  views : r.views = s.views ++ calls.filterMap Call.view?

theorem mem_decls_of_declared {d? : Option TypeDecl} (h : Declared g d? g') :
    d ∈ g'.decls ↔ d ∈ g.decls ∨ d? = some d := by
  cases d? with
  | none =>
    rw [Declared] at h
    simp [h]
  | some e =>
    rcases TypeGraph.declare_eq_ok_iff.1 h with ⟨he, rfl⟩ | ⟨_, _, rfl⟩
    · have hmem := (Keyed.mem_of_find?_eq_some he).1
      simp only [Option.some.injEq]
      exact ⟨.inl, fun hd => hd.elim id fun hed => hed ▸ hmem⟩
    · simp [eq_comm]

/-- What the first call adds may be taken as being there before. -/
theorem append_filterMap_cons {σ τ : Type} (f : σ → Option τ) (l : List τ) (x : σ) (xs : List σ) :
    l ++ (x :: xs).filterMap f = l ++ (f x).toList ++ xs.filterMap f := by
  rw [List.filterMap_eq_flatMap_toList, List.filterMap_eq_flatMap_toList, List.flatMap_cons,
    List.append_assoc]

theorem collects_of_applyAll (h : s.applyAll calls = .ok r) : s.Collects calls r := by
  induction calls generalizing s with
  | nil =>
    obtain rfl := applyAll_nil_eq_ok_iff.1 h
    constructor <;> simp
  | cons c calls ih =>
    obtain ⟨s', hc, hrest⟩ := applyAll_cons_eq_ok_iff.1 h
    obtain ⟨_, g, hg, rfl⟩ := apply_eq_ok_iff.1 hc
    obtain ⟨hname, hroot, hdecls, hpublic, hfactories, himplementations, hviews⟩ := ih hrest
    refine ⟨hname, hroot, fun d => ?_, fun t => ?_, ?_, ?_, ?_⟩
    · have hfirst : d ∈ g.decls ↔ d ∈ s.graph.decls ∨ c.decl? = some d := mem_decls_of_declared hg
      rw [hdecls, List.exists_mem_cons_iff, ← or_assoc]
      exact or_congr_left hfirst
    · have hfirst : t ∈ (s.adding c g).publicTypes ↔
          t ∈ s.publicTypes ∨ c.publicType? = some t := by
        by_cases ht : t ∈ s.publicTypes <;> simp [adding, ht]
      rw [hpublic, List.exists_mem_cons_iff, ← or_assoc]
      exact or_congr_left hfirst
    · rw [hfactories, append_filterMap_cons, adding]
    · rw [himplementations, append_filterMap_cons, adding]
    · rw [hviews, append_filterMap_cons, adding]

/-- Public types that are all different stand in the order of the calls. -/
theorem publicTypes_of_applyAll (h : s.applyAll calls = .ok r)
    (hnew : (s.publicTypes ++ calls.filterMap Call.publicType?).Nodup) :
    r.publicTypes = s.publicTypes ++ calls.filterMap Call.publicType? := by
  induction calls generalizing s with
  | nil => simp [applyAll_nil_eq_ok_iff.1 h]
  | cons c calls ih =>
    obtain ⟨s', hc, hrest⟩ := applyAll_cons_eq_ok_iff.1 h
    obtain ⟨_, g, _, rfl⟩ := apply_eq_ok_iff.1 hc
    rw [append_filterMap_cons] at hnew ⊢
    have hfresh : ∀ t ∈ c.publicType?.toList, t ∉ s.publicTypes := fun t ht hs =>
      (List.nodup_append.1 hnew.of_append_left).2.2 t hs t ht rfl
    have hadding : (s.adding c g).publicTypes = s.publicTypes ++ c.publicType?.toList := by
      rw [adding, List.filter_eq_self.2 fun t ht => by simpa using hfresh t ht]
    rw [← hadding] at hnew ⊢
    exact ih hrest hnew

/-- The distinct views on a type, each where it is first attached. -/
theorem internalViews_eq (r : Registry α γ) (t : TypeName) :
    r.internalViews t = ((r.viewEntries t).map (·.view)).eraseDups := by
  have collect : ∀ (l vs : List TypeName),
      l.foldl (fun vs v => if v ∈ vs then vs else vs ++ [v]) vs =
        vs ++ (l.filter (· ∉ vs)).eraseDups := by
    intro l
    induction l with
    | nil => simp
    | cons v l ih =>
      intro vs
      by_cases hv : v ∈ vs
      · simp [hv, ih]
      · simp only [List.foldl_cons, hv, if_false, ih, List.filter_cons, decide_not, decide_false,
          Bool.not_false, if_true, List.eraseDups_cons, List.filter_filter]
        simp [Bool.and_comm, Bool.beq_eq_decide_eq]
  simpa [internalViews] using collect ((r.viewEntries t).map (·.view)) []

end Registry

end TypeFamily
