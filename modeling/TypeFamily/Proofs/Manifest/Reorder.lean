import TypeFamily.Proofs.Manifest.Faithful

/-!
The order of a manifest does not matter. Whether it is consistent and whether it loads are questions
about what is in its lists, and two orders of one manifest make the same registrations; so they
build registries of the same content, factories included, since these record a resolution that does
not depend on the order either.
-/

namespace TypeFamily.Manifest

open Registry

variable {m m' : Manifest} {r r' : ManifestRegistry}

/-- The same family, types, implementations, views and factories, in whatever order. -/
structure Rearranges (m m' : Manifest) : Prop where
  family : m'.family = m.family
  types : m.types.Perm m'.types
  implementations : m.implementations.Perm m'.implementations
  views : m.views.Perm m'.views
  factories : m.factories.Perm m'.factories

namespace Rearranges

theorem symm (h : m.Rearranges m') : m'.Rearranges m :=
  ⟨h.family.symm, h.types.symm, h.implementations.symm, h.views.symm, h.factories.symm⟩

/-! ### Acceptance -/

theorem consistent (h : m.Rearranges m') (hm : m.Consistent) : m'.Consistent where
  root := h.family ▸ hm.root
  types t ht := hm.types t (h.types.mem_iff.2 ht)
  types_nodup := (h.types.map _).nodup_iff.1 hm.types_nodup
  implementations i hi := by
    obtain ⟨htype, himplementation, t, ht, hname⟩ :=
      hm.implementations i (h.implementations.mem_iff.2 hi)
    exact ⟨htype, himplementation, t, h.types.mem_iff.1 ht, hname⟩
  views v hv := hm.views v (h.views.mem_iff.2 hv)
  factories f hf := hm.factories f (h.factories.mem_iff.2 hf)

theorem root_eq (h : m.Rearranges m') : m'.root = m.root := by
  rw [root, root, h.family]

theorem extends_eq (h : m.Rearranges m') : m'.Extends = m.Extends := by
  funext a b
  simp only [Extends, h.types.mem_iff]

theorem below_eq (h : m.Rearranges m') : m'.Below = m.Below := by
  rw [Below, Below, h.extends_eq]

theorem open_iff (h : m.Rearranges m') (n : TypeName) : m'.Open n ↔ m.Open n := by
  simp only [Open, Declares, h.extends_eq, h.root_eq, h.types.mem_iff]

theorem serves_iff (h : m.Rearranges m') (t : TypeItem) (n : TypeName) :
    m'.Serves t n ↔ m.Serves t n := by
  have below : m'.Below (.ofString t.name) m'.root ∧ m'.Below (.ofString t.name) n ∨
      m'.Open (.ofString t.name) ↔
        m.Below (.ofString t.name) m.root ∧ m.Below (.ofString t.name) n ∨
          m.Open (.ofString t.name) := by
    rw [h.below_eq, h.root_eq, h.open_iff]
  constructor
  · exact fun hs => ⟨hs.concrete, hs.constructible, below.1 hs.below⟩
  · exact fun hs => ⟨hs.concrete, hs.constructible, below.2 hs.below⟩

theorem loads (h : m.Rearranges m') (hm : m.Loads) : m'.Loads where
  acyclic := h.extends_eq ▸ hm.acyclic
  root_interface t ht hname := hm.root_interface t (h.types.mem_iff.2 ht) (h.root_eq ▸ hname)
  publicTypes t ht hpublic := by
    rw [h.below_eq, h.root_eq, h.open_iff]
    exact hm.publicTypes t (h.types.mem_iff.2 ht) hpublic
  implementations i hi := by
    obtain ⟨t, ht, hname, hserves⟩ := hm.implementations i (h.implementations.mem_iff.2 hi)
    exact ⟨t, h.types.mem_iff.1 ht, hname, (h.serves_iff t _).2 hserves⟩
  implementations_nodup := (h.implementations.map _).nodup_iff.1 hm.implementations_nodup
  factories_nodup := (h.factories.map _).nodup_iff.1 hm.factories_nodup

/-! ### Content -/

theorem emptyRegistry_eq (h : m.Rearranges m') : m'.emptyRegistry = m.emptyRegistry := by
  rw [emptyRegistry, emptyRegistry, h.family]

theorem typeItem?_eq (h : m.Rearranges m') (hm : m.Consistent) (name : String) :
    m'.typeItem? name = m.typeItem? name :=
  Keyed.find?_perm hm.types_nodup h.types

theorem setupCalls_perm (h : m.Rearranges m') (hm : m.Consistent) :
    m.setupCalls.Perm m'.setupCalls := by
  have implementations : m.implementationCalls.Perm m'.implementationCalls := by
    simp only [implementationCalls, h.typeItem?_eq hm]
    exact h.implementations.filterMap _
  refine (((h.types.map _).append ?_).append implementations).append (h.views.map _)
  exact (h.types.filter _).map _

/-- Registries that two orders of one manifest are built into have the same content. -/
theorem alike_of_build (h : m.Rearranges m') (hm : m.Consistent) (hr : m.build = .ok r)
    (hr' : m'.build = .ok r') : r.Alike r' := by
  obtain ⟨r₀, hsetup, hfactories⟩ := build_eq_ok_iff.1 hr
  obtain ⟨r₀', hsetup', hfactories'⟩ := build_eq_ok_iff.1 hr'
  rw [h.emptyRegistry_eq] at hsetup'
  have perm := h.setupCalls_perm hm
  -- up to the factories, the registrations are the same
  have alike : r₀.Alike r₀' :=
    (collects_of_applyAll hsetup).alike_of_perm (collects_of_applyAll hsetup')
      (wellFormed_of_applyAll hsetup) (wellFormed_of_applyAll hsetup') perm
  have calls : m'.factories.map (·.call r₀') = m'.factories.map (·.call r₀) := by
    simp only [FactoryItem.call, alike.resolve (wellFormed_of_applyAll hsetup)]
  rw [calls] at hfactories'
  have hall := applyAll_append_eq_ok_iff.2 ⟨r₀, hsetup, hfactories⟩
  have hall' := applyAll_append_eq_ok_iff.2 ⟨r₀', hsetup', hfactories'⟩
  exact (collects_of_applyAll hall).alike_of_perm (collects_of_applyAll hall')
    (wellFormed_of_applyAll hall) (wellFormed_of_applyAll hall') (perm.append (h.factories.map _))

end Rearranges

theorem mem_internalViews_iff {t v : TypeName} :
    v ∈ r.internalViews t ↔ ∃ e ∈ r.viewEntries t, e.view = v := by
  simp [internalViews_eq]

/-- CORRECT: two orders of one manifest are accepted or refused together, are built or refused
together, and are built into registries of the same content, which resolve, make and validate
alike. -/
theorem build_rearranged (h : m.Rearranges m') :
    (m'.validate = .ok () ↔ m.validate = .ok ()) ∧
    (m.validate = .ok () →
      ((∃ r', m'.build = .ok r') ↔ ∃ r, m.build = .ok r) ∧
      ∀ r r', m.build = .ok r → m'.build = .ok r' → r.Alike r' ∧
        (∀ n, r'.graph.find? n = r.graph.find? n) ∧
        (∀ t v, v ∈ r'.internalViews t ↔ v ∈ r.internalViews t) ∧
        (∀ t, r'.resolve t = r.resolve t) ∧
        (∀ t, r'.newDefaultInstance t = r.newDefaultInstance t) ∧
        (∀ t context name, r'.create t context name = r.create t context name) ∧
        (r'.validate = .ok () ↔ r.validate = .ok ())) := by
  refine ⟨?_, fun hvalid => ?_⟩
  · rw [validate_eq_ok_iff, validate_eq_ok_iff]
    exact ⟨h.symm.consistent, h.consistent⟩
  · have hm := validate_eq_ok_iff.1 hvalid
    refine ⟨?_, fun r r' hr hr' => ?_⟩
    · rw [exists_build_iff hm, exists_build_iff (h.consistent hm)]
      exact ⟨h.symm.loads, h.loads⟩
    · have alike := h.alike_of_build hm hr hr'
      obtain ⟨r₀, hsetup, hfactories⟩ := build_eq_ok_iff.1 hr
      have wf := wellFormed_of_applyAll (applyAll_append_eq_ok_iff.2 ⟨r₀, hsetup, hfactories⟩)
      refine ⟨alike, alike.find? wf, fun t v => ?_, alike.resolve wf, alike.newDefaultInstance wf,
        alike.create wf, alike.validate_eq_ok_iff wf⟩
      simp only [mem_internalViews_iff, (alike.views t).mem_iff]

/-- The manifest of spaced names with every list turned around. -/
def turnedManifest : Manifest :=
  { spacedManifest with
    types := spacedManifest.types.reverse
    implementations := spacedManifest.implementations.reverse
    views := spacedManifest.views.reverse
    factories := spacedManifest.factories.reverse }

/-- Turned around, the manifest is built into a registry that resolves `Ring` all the same. -/
theorem build_rearranged_turned : spacedManifest.Rearranges turnedManifest ∧
    turnedManifest.validate = .ok () ∧ ∃ r r', spacedManifest.build = .ok r ∧
      turnedManifest.build = .ok r' ∧ r.Alike r' ∧ r'.resolve ⟨"Ring"⟩ = r.resolve ⟨"Ring"⟩ := by
  have turned : spacedManifest.Rearranges turnedManifest :=
    ⟨rfl, (List.reverse_perm _).symm, (List.reverse_perm _).symm, (List.reverse_perm _).symm,
      (List.reverse_perm _).symm⟩
  obtain ⟨accepted, same⟩ := build_rearranged turned
  have valid : spacedManifest.validate = .ok () := by rfl
  obtain ⟨built, alike⟩ := same valid
  obtain ⟨r, hr⟩ := exists_build_spacedManifest
  obtain ⟨r', hr'⟩ := built.2 ⟨r, hr⟩
  obtain ⟨content, _, _, resolved, _⟩ := alike r r' hr hr'
  exact ⟨turned, accepted.2 valid, r, r', hr, hr', content, resolved _⟩

end TypeFamily.Manifest
