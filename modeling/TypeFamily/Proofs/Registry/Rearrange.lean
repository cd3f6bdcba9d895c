import TypeFamily.Proofs.Registry.Alike
import TypeFamily.Proofs.Registry.Content

/-!
The order of registrations does not matter. What is asked of a call on the way concerns a part of
the graph that all the calls lead to, and no part rules out what stands in the whole: if everything
fits in the end, every call is let in at any time. What the registry then holds is told by which
calls were made.
-/

namespace TypeFamily.Registry

variable {α γ : Type} {s r r' : Registry α γ} {c : Call α γ} {calls calls' repeats : List (Call α γ)}

/-- A call that makes a declaration and nothing else that counts twice. -/
def Call.Repeatable : Call α γ → Prop
  | declareType _ => True
  | registerPublicType _ => True
  | _ => False

/-- What a call asks for stands in `r`, and fits there. -/
structure Settled (r : Registry α γ) (c : Call α γ) : Prop where
  decl : ∀ d, c.decl? = some d → r.graph.find? d.name = some d
  publicType : ∀ t, c.publicType? = some t → r.graph.isAssignable r.root t
  implementation : ∀ e, c.implementation? = some e →
    (r.graph.isAssignable r.root e.name ∧ r.graph.isAssignable e.type e.name) ∧
      e.implementation.decl.isConcrete ∧ e.implementation.hasConstructor

/-- The type that a call brings a factory or an implementation for has none yet. -/
structure Unregistered (s : Registry α γ) (c : Call α γ) : Prop where
  factory : ∀ e, c.factory? = some e → s.factory? e.type = none
  implementation : ∀ e, c.implementation? = some e → s.implementation? e.type = none

/-! ### Acceptance -/

/-- Where no key comes twice, what a call brings is not there before its turn. -/
theorem unregistered_of_nodup {fs : List (FactoryEntry α γ)} {is : List (ImplementationEntry α)}
    (hfactories : ((s.factories ++ c.factory?.toList ++ fs).map (·.type)).Nodup)
    (himplementations : ((s.implementations ++ c.implementation?.toList ++ is).map (·.type)).Nodup) :
    s.Unregistered c where
  factory _ he := Keyed.find?_eq_none_of_nodup hfactories (Option.mem_toList.2 he)
  implementation _ he := Keyed.find?_eq_none_of_nodup himplementations (Option.mem_toList.2 he)

theorem Settled.admits (hc : r.Settled c) (hr : r.graph.Acyclic) (hw : s.graph.Within r.graph)
    (hroot : s.root = r.root) (hnew : s.Unregistered c) : s.Admits c := by
  cases c with
  | declareType d => trivial
  | registerPublicType d =>
    rw [Admits, hroot]
    exact hw.reaches_ne_doesNotReach hr (hc.decl d rfl) (hc.publicType d.name rfl)
  | registerFactory t source make => exact hnew.factory _ rfl
  | registerImplementation t source i =>
    obtain ⟨⟨hfamily, htype⟩, hsound⟩ := hc.implementation _ rfl
    refine ⟨defect?_eq_none_iff.2 ⟨⟨?_, ?_⟩, hsound⟩, hnew.implementation _ rfl⟩
    · rw [hroot]
      exact hw.reaches_ne_doesNotReach hr (hc.decl i.decl rfl) hfamily
    · exact hw.reaches_ne_doesNotReach hr (hc.decl i.decl rfl) htype
  | registerInternalView t source view => trivial

/-- A settled call that is not the second of its key is accepted on the way. -/
theorem Settled.exists_apply (hc : r.Settled c) (hr : r.graph.Acyclic)
    (hw : s.graph.Within r.graph) (hroot : s.root = r.root) (hnew : s.Unregistered c) :
    ∃ g, s.apply c = .ok (s.adding c g) ∧ g.Within r.graph := by
  have hadmits : s.Admits c := hc.admits hr hw hroot hnew
  obtain ⟨g, hg, hwg⟩ : ∃ g, Declared s.graph c.decl? g ∧ g.Within r.graph := by
    cases hd : c.decl? with
    | none => exact ⟨s.graph, rfl, hw⟩
    | some d => exact hw.exists_declare hr (hc.decl d hd)
  exact ⟨g, apply_eq_ok_iff.2 ⟨hadmits, g, hg, rfl⟩, hwg⟩

/-- Settled calls are all accepted, in whatever order they come, if no key comes twice. -/
theorem exists_applyAll (hr : r.graph.Acyclic) (hcalls : ∀ c ∈ calls, r.Settled c)
    (hw : s.graph.Within r.graph) (hroot : s.root = r.root)
    (hfactories : ((s.factories ++ calls.filterMap Call.factory?).map (·.type)).Nodup)
    (himplementations :
      ((s.implementations ++ calls.filterMap Call.implementation?).map (·.type)).Nodup) :
    ∃ s', s.applyAll calls = .ok s' := by
  induction calls generalizing s with
  | nil => exact ⟨s, applyAll_nil_eq_ok_iff.2 rfl⟩
  | cons c calls ih =>
    rw [append_filterMap_cons] at hfactories himplementations
    have hnew : s.Unregistered c := unregistered_of_nodup hfactories himplementations
    obtain ⟨g, hc, hwg⟩ := (hcalls c List.mem_cons_self).exists_apply hr hw hroot hnew
    obtain ⟨s', hs'⟩ := ih (s := s.adding c g) (fun c' hc' => hcalls c' (List.mem_cons_of_mem _ hc'))
      hwg hroot hfactories himplementations
    exact ⟨s', applyAll_cons_eq_ok_iff.2 ⟨_, hc, hs'⟩⟩

/-- If everything in `r` fits, then the calls that led there are settled in it. -/
theorem settled_of_applyAll (hs : s.WellFormed) (h : s.applyAll calls = .ok r)
    (hpublic : ∀ t ∈ r.publicTypes, r.graph.isAssignable r.root t)
    (himplementation : ∀ e ∈ r.implementations,
      r.graph.isAssignable r.root e.name ∧ r.graph.isAssignable e.type e.name) :
    ∀ c ∈ calls, r.Settled c := by
  have hr : r.WellFormed := run_of_applyAll h ▸ hs.run calls
  have collects : s.Collects calls r := collects_of_applyAll h
  intro c hc
  refine ⟨fun d hd => ?_, fun t ht => ?_, fun e he => ?_⟩
  · have hmem : d ∈ r.graph.decls := (collects.decls d).2 (.inr ⟨c, hc, hd⟩)
    exact (Keyed.find?_eq_some_iff hr.decls_nodup).2 ⟨hmem, rfl⟩
  · exact hpublic t ((collects.publicTypes t).2 (.inr ⟨c, hc, ht⟩))
  · have hmem : e ∈ r.implementations := by
      rw [collects.implementations]
      exact List.mem_append_right _ (List.mem_filterMap.2 ⟨c, hc, he⟩)
    obtain ⟨s₁, s₂, happly⟩ := exists_apply_of_mem h hc
    obtain ⟨hadmits, _⟩ := apply_eq_ok_iff.1 happly
    obtain ⟨hdefect, _⟩ := hadmits.implementation? he
    exact ⟨himplementation e hmem, (defect?_eq_none_iff.1 hdefect).2⟩

/-! ### Content -/

theorem Call.Repeatable.adds_no_entry (h : c.Repeatable) :
    c.factory? = none ∧ c.implementation? = none ∧ c.view? = none := by
  cases c with
  | declareType d => exact ⟨rfl, rfl, rfl⟩
  | registerPublicType d => exact ⟨rfl, rfl, rfl⟩
  | registerFactory t source make => exact h.elim
  | registerImplementation t source i => exact h.elim
  | registerInternalView t source view => exact h.elim

/-- Calls that add no entry may be repeated among the others. -/
theorem filterMap_perm {σ τ : Type} {f : σ → Option τ} {xs xs' ys : List σ}
    (hperm : xs'.Perm (xs ++ ys)) (hys : ∀ y ∈ ys, f y = none) :
    (xs.filterMap f).Perm (xs'.filterMap f) := by
  have hnil : ys.filterMap f = [] := List.filterMap_eq_nil_iff.2 hys
  have hp := hperm.filterMap f
  rw [List.filterMap_append, hnil, List.append_nil] at hp
  exact hp.symm

/-- No key comes twice in one order of the calls if none does in another. -/
theorem nodup_rearranged {σ τ κ : Type} {f : σ → Option τ} {key : τ → κ} {l : List τ}
    {xs xs' ys : List σ} (hperm : xs'.Perm (xs ++ ys)) (hys : ∀ y ∈ ys, f y = none)
    (h : ((l ++ xs.filterMap f).map key).Nodup) : ((l ++ xs'.filterMap f).map key).Nodup := by
  have hp := (filterMap_perm hperm hys).append_left l
  exact (hp.map key).nodup_iff.1 h

/-- The same calls in another order, declarations repeated, add the same to a registry. -/
theorem Collects.alike (h : s.Collects calls r) (h' : s.Collects calls' r') (hr : r.WellFormed)
    (hr' : r'.WellFormed) (hrepeats : ∀ c ∈ repeats, c ∈ calls ∧ c.Repeatable)
    (hperm : calls'.Perm (calls ++ repeats)) : r.Alike r' := by
  have hmem : ∀ c, c ∈ calls' ↔ c ∈ calls := by
    intro c
    rw [hperm.mem_iff, List.mem_append]
    exact ⟨fun hc => hc.elim id fun hc => (hrepeats c hc).1, .inl⟩
  have entries : ∀ c ∈ repeats, c.factory? = none ∧ c.implementation? = none ∧ c.view? = none :=
    fun c hc => (hrepeats c hc).2.adds_no_entry
  refine ⟨h'.displayName.trans h.displayName.symm, h'.root.trans h.root.symm, ?_, ?_, ?_, ?_, ?_⟩
  · refine (List.perm_ext_iff_of_nodup hr.decls_nodup.of_map hr'.decls_nodup.of_map).2 fun d => ?_
    rw [h.decls, h'.decls]
    simp only [hmem]
  · refine (List.perm_ext_iff_of_nodup hr.publicTypes_nodup hr'.publicTypes_nodup).2 fun t => ?_
    rw [h.publicTypes, h'.publicTypes]
    simp only [hmem]
  · rw [h.factories, h'.factories]
    exact (filterMap_perm hperm fun c hc => (entries c hc).1).append_left _
  · rw [h.implementations, h'.implementations]
    exact (filterMap_perm hperm fun c hc => (entries c hc).2.1).append_left _
  · intro t
    rw [viewEntries, viewEntries, h.views, h'.views]
    exact ((filterMap_perm hperm fun c hc => (entries c hc).2.2).append_left _).filter _

theorem Collects.alike_of_perm (h : s.Collects calls r) (h' : s.Collects calls' r')
    (hr : r.WellFormed) (hr' : r'.WellFormed) (hperm : calls.Perm calls') : r.Alike r' := by
  have norepeats : calls'.Perm (calls ++ []) := by
    rw [List.append_nil]
    exact hperm.symm
  exact h.alike h' hr hr' (fun c hc => absurd hc List.not_mem_nil) norepeats

/-! ### Rearrangement -/

/-- CORRECT: where a list of calls is accepted and all that it registers fits in the end, the calls
are accepted in every order, with declarations repeated at will, and lead to a registry of the same
content, which resolves, makes and validates alike. -/
theorem applyAll_rearranged {displayName : String} {root : TypeName}
    (h : (empty displayName root).applyAll calls = .ok r)
    (hpublic : ∀ t ∈ r.publicTypes, r.graph.isAssignable root t)
    (himplementation : ∀ e ∈ r.implementations,
      r.graph.isAssignable root e.name ∧ r.graph.isAssignable e.type e.name)
    (hrepeats : ∀ c ∈ repeats, c ∈ calls ∧ c.Repeatable)
    (hperm : calls'.Perm (calls ++ repeats)) :
    ∃ r', (empty displayName root).applyAll calls' = .ok r' ∧ r.Alike r' ∧
      (∀ t, r'.resolve t = r.resolve t) ∧
      (∀ t, r'.newDefaultInstance t = r.newDefaultInstance t) ∧
      (∀ t context name, r'.create t context name = r.create t context name) ∧
      (r'.validate = .ok () ↔ r.validate = .ok ()) := by
  have wf₀ : (empty displayName root : Registry α γ).WellFormed := wellFormed_empty displayName root
  have collects := collects_of_applyAll h
  have hrun := run_of_applyAll h
  have hr : r.WellFormed := hrun ▸ wf₀.run calls
  have hroot : r.root = root := collects.root
  have settled : ∀ c ∈ calls', r.Settled c := by
    intro c hc
    refine settled_of_applyAll wf₀ h (hroot ▸ hpublic) (hroot ▸ himplementation) c ?_
    rcases List.mem_append.1 (hperm.mem_iff.1 hc) with hc | hc
    · exact hc
    · exact (hrepeats c hc).1
  obtain ⟨r', h'⟩ : ∃ r', (empty displayName root).applyAll calls' = .ok r' := by
    refine exists_applyAll hr.acyclic settled (hrun ▸ within_run _ calls) hroot.symm ?_ ?_
    · exact nodup_rearranged hperm (fun c hc => (hrepeats c hc).2.adds_no_entry.1)
        (collects.factories ▸ hr.factories_nodup)
    · exact nodup_rearranged hperm (fun c hc => (hrepeats c hc).2.adds_no_entry.2.1)
        (collects.implementations ▸ hr.implementations_nodup)
  have hr' : r'.WellFormed := run_of_applyAll h' ▸ wf₀.run calls'
  have alike : r.Alike r' := collects.alike (collects_of_applyAll h') hr hr' hrepeats hperm
  exact ⟨r', h', alike, alike.resolve hr, alike.newDefaultInstance hr, alike.create hr,
    alike.validate_eq_ok_iff hr⟩

/-- `Ring` is made public, implemented, viewed and manufactured before its supertype `Oval` is
declared. -/
def ringCalls : List (Call Unit Unit) :=
  [.registerPublicType { name := ⟨"Ring"⟩, supertypes := [⟨"Oval"⟩] },
    .registerImplementation ⟨"Ring"⟩ none
      ⟨{ name := ⟨"Band"⟩, supertypes := [⟨"Ring"⟩], kind := .concrete }, some ()⟩,
    .registerInternalView ⟨"Ring"⟩ none ⟨"Oval"⟩,
    .registerFactory ⟨"Ring"⟩ none fun _ context => ((), context),
    .declareType { name := ⟨"Oval"⟩, supertypes := [⟨"Shape"⟩] }]

def ringRegistry : Registry Unit Unit :=
  (empty "shapes" ⟨"Shape"⟩).run ringCalls

/-- The calls are accepted backwards too, with `Oval` declared once more at the end. -/
theorem applyAll_rearranged_ring :
    (empty "shapes" ⟨"Shape"⟩).applyAll ringCalls = .ok ringRegistry ∧
      ringRegistry.validate = .ok () ∧
      ∃ r', (empty "shapes" ⟨"Shape"⟩).applyAll
          (ringCalls.reverse ++ [.declareType { name := ⟨"Oval"⟩, supertypes := [⟨"Shape"⟩] }]) =
            .ok r' ∧ ringRegistry.Alike r' ∧ r'.validate = .ok () := by
  have accepted : (empty "shapes" ⟨"Shape"⟩).applyAll ringCalls = .ok ringRegistry := by cbv
  have valid : ringRegistry.validate = .ok () := by cbv
  have publicTypes : ringRegistry.publicTypes = [⟨"Ring"⟩] := by cbv
  have inFamily : ∀ t ∈ ringRegistry.publicTypes, ringRegistry.graph.isAssignable ⟨"Shape"⟩ t := by
    rw [publicTypes]
    simp only [List.forall_mem_singleton]
    cbv
  have fits : ∀ e ∈ ringRegistry.implementations,
      ringRegistry.graph.isAssignable ⟨"Shape"⟩ e.name ∧
        ringRegistry.graph.isAssignable e.type e.name := by
    have implementations : ringRegistry.implementations = [⟨⟨"Ring"⟩, none,
        ⟨{ name := ⟨"Band"⟩, supertypes := [⟨"Ring"⟩], kind := .concrete }, some ()⟩⟩] := by cbv
    rw [implementations]
    simp only [List.forall_mem_singleton]
    exact ⟨by cbv, by cbv⟩
  have again : ∀ c ∈ [.declareType { name := ⟨"Oval"⟩, supertypes := [⟨"Shape"⟩] }],
      c ∈ ringCalls ∧ c.Repeatable := by
    simp [ringCalls, Call.Repeatable]
  obtain ⟨r', accepted', alike, _, _, _, valid'⟩ :=
    applyAll_rearranged accepted inFamily fits again (ringCalls.reverse_perm.append_right _)
  exact ⟨accepted, valid, r', accepted', alike, valid'.2 valid⟩

end TypeFamily.Registry
