import TypeFamily.Proofs.Registry.Check
import TypeFamily.Proofs.Registry.Invariant

/-!
What validation is worth to resolution. Every public type of a validated registry resolves, to a
concrete type that stands in the graph, and one whose owner is public too was checked to fit. An
implementation that was let in while its ancestry was open, for a type that is not public, is
checked by nobody: whether it fits when a public type inherits it is the one thing that validation
leaves to chance.
-/

namespace TypeFamily.Registry

variable {α γ : Type} {s r r' : Registry α γ} {c : Call α γ} {calls : List (Call α γ)}
  {p t : TypeName} {i : Implementation α} {e : ImplementationEntry α} {found : Resolution}

/-- What validation is to promise of a public type. -/
def ResolvesSoundly (r : Registry α γ) (p : TypeName) : Prop :=
  ∃ found d, r.resolve p = .ok found ∧ r.graph.find? found.implementation = some d ∧
    d.isConcrete ∧ r.graph.isAssignable found.owner found.implementation ∧
      r.graph.isAssignable r.root found.implementation

/-- `p` owns no implementation, and `t` is an ancestor that it could inherit one from. -/
def Inherits (r : Registry α γ) (p t : TypeName) : Prop :=
  r.implementation? p = none ∧ t ∈ r.graph.familyAncestors p r.root

/-- What is declared so far leaves it open whether `i` fits under the root and under `t`. -/
def OpenFor (r : Registry α γ) (t : TypeName) (i : Implementation α) : Prop :=
  r.graph.reaches i.decl r.root = .undecided ∨ r.graph.reaches i.decl t = .undecided

/-- Among the calls that are made on `s`, one registers `i` for `t` and is accepted while it is open
whether `i` fits. -/
def LetInOpen (s : Registry α γ) (calls : List (Call α γ)) (t : TypeName) (i : Implementation α) :
    Prop :=
  ∃ before source after, calls = before ++ .registerImplementation t source i :: after ∧
    (s.run before).accepts (.registerImplementation t source i) ∧ (s.run before).OpenFor t i

/-! ### Where the implementations come from -/

theorem Call.eq_of_implementation? (h : c.implementation? = some e) :
    c = .registerImplementation e.type e.source e.implementation := by
  cases c with
  | registerImplementation t source i => rw [← Option.some.inj h]
  | _ => simp at h

/-- Whatever is registered came with a call that was accepted. -/
theorem exists_call_of_mem_implementations (h : e ∈ (s.run calls).implementations) :
    e ∈ s.implementations ∨ ∃ before after,
      calls = before ++ .registerImplementation e.type e.source e.implementation :: after ∧
        (s.run before).accepts (.registerImplementation e.type e.source e.implementation) := by
  induction calls generalizing s with
  | nil => exact .inl h
  | cons c calls ih =>
    rcases ih h with he | ⟨before, after, rfl, hc⟩
    · rcases step_cases s c with hsame | ⟨hacc, g, hadd⟩
      · exact .inl (hsame ▸ he)
      · rw [hadd] at he
        rcases List.mem_append.1 he with he | he
        · exact .inl he
        · obtain rfl := Call.eq_of_implementation? (by simpa using he : c.implementation? = some e)
          exact .inr ⟨[], calls, rfl, hacc⟩
    · exact .inr ⟨c :: before, after, rfl, hc⟩

/-! ### What has been settled -/

/-- An implementation is accepted while it is open whether it fits, or fits afterwards. -/
theorem openFor_or_fits {source : Option Source} (hs : s.WellFormed)
    (h : s.apply (.registerImplementation t source i) = .ok r) :
    s.OpenFor t i ∨
      r.graph.isAssignable t i.decl.name ∧ r.graph.isAssignable s.root i.decl.name := by
  obtain ⟨⟨hdefect, _⟩, g, hg, rfl⟩ := apply_eq_ok_iff.1 h
  obtain ⟨⟨hroot, htype⟩, _⟩ := defect?_eq_none_iff.1 hdefect
  have reached : ∀ x, s.graph.reaches i.decl x ≠ .doesNotReach →
      s.graph.reaches i.decl x ≠ .undecided → g.isAssignable x i.decl.name := by
    intro x hmissed hundecided
    refine (TypeGraph.reaches_iff_isAssignable hs.acyclic hg).1 ?_
    cases hv : s.graph.reaches i.decl x with
    | reaches => rfl
    | doesNotReach => exact absurd hv hmissed
    | undecided => exact absurd hv hundecided
  by_cases hopen : s.OpenFor t i
  · exact .inl hopen
  · obtain ⟨openRoot, openType⟩ := not_or.1 hopen
    exact .inr ⟨reached t htype openType, reached s.root hroot openRoot⟩

/-- Whatever is registered on the way was let in open or fits, then and from then on. -/
theorem letInOpen_or_fits (hs : s.WellFormed) (h : e ∈ (s.run calls).implementations)
    (hnew : e ∉ s.implementations) : LetInOpen s calls e.type e.implementation ∨
      (s.run calls).graph.isAssignable e.type e.name ∧
        (s.run calls).graph.isAssignable s.root e.name := by
  obtain hold | ⟨before, after, rfl, hacc⟩ := exists_call_of_mem_implementations h
  · exact absurd hold hnew
  · rcases openFor_or_fits (hs.run before) (accepts_iff.1 hacc) with hopen | ⟨htype, hroot⟩
    · exact .inl ⟨before, e.source, after, rfl, hacc, hopen⟩
    · rw [root_run] at hroot
      rw [run_append]
      exact .inr ⟨(within_run _ after).isAssignable htype, (within_run _ after).isAssignable hroot⟩

/-! ### What a public type resolves to -/

/-- A type resolves to an entry that it owns or that an ancestor in the family does. -/
theorem exists_entry_of_resolve (h : r.resolve p = .ok found) :
    ∃ e, r.implementation? found.owner = some e ∧ found = e.resolution ∧
      (found.owner = p ∨ r.Inherits p found.owner) := by
  -- an entry found under a name is one for that name
  have owner : ∀ {a e}, r.implementation? a = some e → e.resolution.owner = a := fun he =>
    (Keyed.mem_of_find?_eq_some he).2
  rcases resolve_eq_ok_iff.1 h with ⟨e, he, rfl⟩ | ⟨hp, hcandidates⟩
  · rw [owner he]
    exact ⟨e, he, rfl, .inl rfl⟩
  · have hfound : found ∈ r.candidates p := by simp [hcandidates]
    obtain ⟨a, ha, e, he, rfl⟩ := mem_candidates_iff.1 hfound
    rw [owner he]
    exact ⟨e, he, rfl, .inr ⟨hp, ha⟩⟩

/-- A type resolves to an owner that is the type itself exactly if it owns an implementation. -/
theorem owner_eq_iff (h : r.resolve t = .ok found) : found.owner = t ↔ r.hasImplementation t := by
  obtain ⟨e, he, _, hwhence⟩ := exists_entry_of_resolve h
  constructor
  · rintro rfl
    rw [hasImplementation, he, Option.isSome_some]
  · intro howns
    refine hwhence.resolve_right fun hinherits => ?_
    rw [hasImplementation, hinherits.1] at howns
    cases howns

/-- A type that resolves and inherits from an owner resolves to what that one owns. -/
theorem resolve_of_inherits (hp : r.Inherits p t) (he : r.implementation? t = some e)
    (h : r.resolve p = .ok found) : found = e.resolution := by
  rcases resolve_eq_ok_iff.1 h with ⟨own, hown, _⟩ | ⟨_, hcandidates⟩
  · rw [hp.1] at hown
    cases hown
  · have hmem : e.resolution ∈ r.candidates p := mem_candidates_iff.2 ⟨t, hp.2, e, he, rfl⟩
    rw [hcandidates, List.mem_singleton] at hmem
    exact hmem.symm

theorem exists_resolve_of_check (h : r.check p = .ok ()) : ∃ found, r.resolve p = .ok found := by
  obtain ⟨_, ⟨own, hown, _⟩ | ⟨_, _, hfound⟩⟩ := check_eq_ok_iff.1 h
  · exact ⟨own.resolution, resolve_eq_ok_iff.2 (.inl ⟨own, hown, rfl⟩)⟩
  · exact hfound

/-- The sweep takes up the implementation of a public owner. -/
theorem serves_of_check (h : r.check t = .ok ()) (he : r.implementation? t = some e) :
    r.Serves t e := by
  obtain ⟨_, ⟨own, hown, hserves⟩ | ⟨hnone, _⟩⟩ := check_eq_ok_iff.1 h
  · rw [he] at hown
    exact Option.some.inj hown ▸ hserves
  · rw [hnone] at he
    cases he

/-- What an accepted call registered is found under its type from then on. -/
theorem implementation?_run_of_accepts {before after : List (Call α γ)} {source : Option Source}
    (hacc : (s.run before).accepts (.registerImplementation t source i)) :
    (s.run (before ++ .registerImplementation t source i :: after)).implementation? t =
      some ⟨t, source, i⟩ := by
  rw [run_append, run_cons]
  exact implementation?_run (implementation?_of_apply (accepts_iff.1 hacc)) after

/-- A public type of a validated registry resolves to a concrete type of the graph, which fits if
its owner is public. -/
theorem exists_resolve_of_validate (hr : r.WellFormed) (h : r.validate = .ok ())
    (hp : p ∈ r.publicTypes) : ∃ found d, r.resolve p = .ok found ∧
      r.graph.find? found.implementation = some d ∧ d.isConcrete ∧
      (found.owner ∈ r.publicTypes → r.graph.isAssignable found.owner found.implementation ∧
        r.graph.isAssignable r.root found.implementation) := by
  have checked := validate_eq_ok_iff.1 h
  obtain ⟨found, hfound⟩ := exists_resolve_of_check (checked p hp)
  obtain ⟨e, he, rfl, _⟩ := exists_entry_of_resolve hfound
  obtain ⟨hdecl, hconcrete⟩ := hr.implementation_declared e (Keyed.mem_of_find?_eq_some he).1
  refine ⟨_, _, hfound, hdecl, hconcrete, fun howner => ?_⟩
  have serves := serves_of_check (checked _ howner) he
  exact ⟨serves.type, serves.root⟩

/-! ### Soundness -/

/-- CORRECT: every public type of a validated registry resolves to a concrete type of the graph that
fits wherever its owner is public, and it fits for all of them exactly if each implementation that
was let in open, for a type that is not public but is inherited from, has come to fit. -/
theorem resolvesSoundly_iff_of_validate {displayName : String} {root : TypeName}
    (hr : r = (empty displayName root).run calls) (h : r.validate = .ok ()) :
    (∀ p ∈ r.publicTypes, ∃ found d, r.resolve p = .ok found ∧
      r.graph.find? found.implementation = some d ∧ d.isConcrete ∧
      (found.owner ∈ r.publicTypes → r.graph.isAssignable found.owner found.implementation ∧
        r.graph.isAssignable root found.implementation)) ∧
    ((∀ p ∈ r.publicTypes, r.ResolvesSoundly p) ↔
      ∀ t i, LetInOpen (empty displayName root) calls t i → t ∉ r.publicTypes →
        (∃ p ∈ r.publicTypes, r.Inherits p t) →
        r.graph.isAssignable t i.decl.name ∧ r.graph.isAssignable root i.decl.name) := by
  have wf₀ : (empty displayName root : Registry α γ).WellFormed := wellFormed_empty displayName root
  have wf : r.WellFormed := hr ▸ wf₀.run calls
  have hroot : r.root = root := by
    rw [hr, root_run]
    rfl
  have resolved := fun p => exists_resolve_of_validate (p := p) wf h
  rw [hroot] at resolved
  refine ⟨resolved, ?_, ?_⟩
  · -- the public type that inherits the implementation resolves to it
    rintro sound t i ⟨before, source, after, rfl, hacc, _⟩ _ ⟨p, hp, hinherits⟩
    obtain ⟨found, _, hfound, _, _, howner, hfits⟩ := sound p hp
    have entry : r.implementation? t = some ⟨t, source, i⟩ :=
      hr ▸ implementation?_run_of_accepts hacc
    obtain rfl := resolve_of_inherits hinherits entry hfound
    exact ⟨howner, hroot ▸ hfits⟩
  · intro fits p hp
    obtain ⟨found, d, hfound, hdecl, hconcrete, hpublic⟩ := resolved p hp
    obtain ⟨e, he, rfl, hwhence⟩ := exists_entry_of_resolve hfound
    suffices hfits : r.graph.isAssignable e.type e.name ∧ r.graph.isAssignable root e.name by
      exact ⟨_, d, hfound, hdecl, hconcrete, hfits.1, hroot ▸ hfits.2⟩
    by_cases howner : e.type ∈ r.publicTypes
    · exact hpublic howner
    -- an owner that is not public is not `p`, and its implementation came open or fits
    have hinherits : r.Inherits p e.type := by
      rcases hwhence with rfl | hinherits
      · exact absurd hp howner
      · exact hinherits
    have hmem : e ∈ ((empty displayName root).run calls).implementations :=
      hr ▸ (Keyed.mem_of_find?_eq_some he).1
    rcases letInOpen_or_fits wf₀ hmem (by simp [empty]) with hopen | hfits
    · exact fits e.type e.implementation hopen howner ⟨p, hp, hinherits⟩
    · exact hr ▸ hfits

/-- `Loose` is registered for `Hidden` while `Later` is undeclared; `Ring`, the only public type,
inherits it. -/
def looseCalls (laterExtends : List TypeName) : List (Call Unit Unit) :=
  [.declareType { name := ⟨"Hidden"⟩, supertypes := [⟨"Shape"⟩] },
    .registerImplementation ⟨"Hidden"⟩ none
      ⟨{ name := ⟨"Loose"⟩, supertypes := [⟨"Later"⟩], kind := .concrete }, some ()⟩,
    .declareType { name := ⟨"Later"⟩, supertypes := laterExtends },
    .registerPublicType { name := ⟨"Ring"⟩, supertypes := [⟨"Hidden"⟩], managed := true }]

def looseRegistry (laterExtends : List TypeName) : Registry Unit Unit :=
  (empty "shapes" ⟨"Shape"⟩).run (looseCalls laterExtends)

/-- Once `Later` is declared under `Hidden`, the implementation that was let in open fits. -/
theorem resolvesSoundly_iff_of_validate_loose :
    (looseRegistry [⟨"Hidden"⟩]).validate = .ok () ∧
      (∀ p ∈ (looseRegistry [⟨"Hidden"⟩]).publicTypes,
        (looseRegistry [⟨"Hidden"⟩]).ResolvesSoundly p) ∧
      ∀ i, LetInOpen (empty "shapes" ⟨"Shape"⟩) (looseCalls [⟨"Hidden"⟩]) ⟨"Hidden"⟩ i →
        (looseRegistry [⟨"Hidden"⟩]).graph.isAssignable ⟨"Shape"⟩ i.decl.name := by
  have valid : (looseRegistry [⟨"Hidden"⟩]).validate = .ok () := by cbv
  have publicTypes : (looseRegistry [⟨"Hidden"⟩]).publicTypes = [⟨"Ring"⟩] := by cbv
  have sound : ∀ p ∈ (looseRegistry [⟨"Hidden"⟩]).publicTypes,
      (looseRegistry [⟨"Hidden"⟩]).ResolvesSoundly p := by
    intro p hp
    rw [publicTypes] at hp
    obtain rfl := List.mem_singleton.1 hp
    exact ⟨⟨⟨"Hidden"⟩, ⟨"Loose"⟩⟩,
      { name := ⟨"Loose"⟩, supertypes := [⟨"Later"⟩], kind := .concrete },
      by cbv, by cbv, by cbv, by cbv, by cbv⟩
  have ring : ⟨"Ring"⟩ ∈ (looseRegistry [⟨"Hidden"⟩]).publicTypes := by simp [publicTypes]
  have hidden : ⟨"Hidden"⟩ ∉ (looseRegistry [⟨"Hidden"⟩]).publicTypes := by simp [publicTypes]
  have inherits : (looseRegistry [⟨"Hidden"⟩]).Inherits ⟨"Ring"⟩ ⟨"Hidden"⟩ := by
    have ancestors : (looseRegistry [⟨"Hidden"⟩]).graph.familyAncestors ⟨"Ring"⟩
        (looseRegistry [⟨"Hidden"⟩]).root = [⟨"Hidden"⟩, ⟨"Shape"⟩] := by cbv
    refine ⟨by cbv, ?_⟩
    rw [ancestors]
    exact List.mem_cons_self
  refine ⟨valid, sound, fun i hopen => ?_⟩
  exact ((resolvesSoundly_iff_of_validate rfl valid).2.1 sound _ i hopen hidden
    ⟨_, ring, inherits⟩).2

/-- Where `Later` turns out to be outside the family, validation still succeeds, and `Ring` resolves
to a type that extends neither `Hidden` nor the root. -/
theorem not_resolvesSoundly_loose :
    (looseRegistry []).validate = .ok () ∧ ⟨"Ring"⟩ ∈ (looseRegistry []).publicTypes ∧
      (looseRegistry []).resolve ⟨"Ring"⟩ = .ok ⟨⟨"Hidden"⟩, ⟨"Loose"⟩⟩ ∧
      ¬ (looseRegistry []).graph.isAssignable ⟨"Hidden"⟩ ⟨"Loose"⟩ ∧
      ¬ (looseRegistry []).graph.isAssignable ⟨"Shape"⟩ ⟨"Loose"⟩ ∧
      ¬ (looseRegistry []).ResolvesSoundly ⟨"Ring"⟩ := by
  have publicTypes : (looseRegistry []).publicTypes = [⟨"Ring"⟩] := by cbv
  have resolved : (looseRegistry []).resolve ⟨"Ring"⟩ = .ok ⟨⟨"Hidden"⟩, ⟨"Loose"⟩⟩ := by cbv
  have misfit : (looseRegistry []).graph.isAssignable ⟨"Hidden"⟩ ⟨"Loose"⟩ = false := by cbv
  have outside : (looseRegistry []).graph.isAssignable ⟨"Shape"⟩ ⟨"Loose"⟩ = false := by cbv
  refine ⟨by cbv, by simp [publicTypes], resolved, by simp [misfit], by simp [outside], ?_⟩
  rintro ⟨found, d, hfound, _, _, howner, _⟩
  rw [resolved] at hfound
  rw [← Except.ok.inj hfound, misfit] at howner
  cases howner

end TypeFamily.Registry
