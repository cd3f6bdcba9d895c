import TypeFamily.Proofs.Manifest.Declared

/-!
Which manifests lead to a registry, and what is in it. A consistent manifest is built into one
exactly if its types can all be declared, every public type and every implementation is, or can
still come to be, where it has to be, and nothing is registered twice; the registry then holds what
the manifest lists and no more.
-/

namespace TypeFamily.Manifest

open Registry

variable {m : Manifest} {r : ManifestRegistry} {g : TypeGraph} {t : TypeItem} {d : TypeDecl}
  {n : TypeName}

/-- An implementation type that is registered for `n` can be made, and is below the root and `n` or
has an ancestor that is not declared. -/
structure Serves (m : Manifest) (t : TypeItem) (n : TypeName) : Prop where
  concrete : t.kind = .concrete
  constructible : t.constructible
  below : m.Below (.ofString t.name) m.root ∧ m.Below (.ofString t.name) n ∨
    m.Open (.ofString t.name)

/-- What a manifest must be like for all its registrations to be accepted. -/
structure Loads (m : Manifest) : Prop where
  acyclic : ∀ n, ¬ Relation.TransGen m.Extends n n
  root_interface : ∀ t ∈ m.types, TypeName.ofString t.name = m.root →
    t.kind = .interface ∧ t.managed = false ∧ t.supertypes = []
  publicTypes : ∀ t ∈ m.types, t.isPublic →
    m.Below (.ofString t.name) m.root ∨ m.Open (.ofString t.name)
  implementations : ∀ i ∈ m.implementations, ∃ t ∈ m.types,
    TypeName.ofString t.name = TypeName.ofString i.implementation ∧ m.Serves t (.ofString i.type)
  implementations_nodup : (m.implementations.map fun i => TypeName.ofString i.type).Nodup
  factories_nodup : (m.factories.map fun f => TypeName.ofString f.type).Nodup

/-- The registry holds what the manifest lists. -/
structure Describes (m : Manifest) (r : ManifestRegistry) : Prop where
  displayName : r.displayName = m.family.displayName
  root : r.root = m.root
  graph : m.DeclaredIn r.graph
  publicTypes :
    r.publicTypes = (m.types.filter (·.isPublic)).map fun t => TypeName.ofString t.name
  implementations : ∀ n e, r.implementation? n = some e ↔ e.type = n ∧
    ∃ i ∈ m.implementations, ∃ t ∈ m.types,
      TypeName.ofString t.name = TypeName.ofString i.implementation ∧
        ⟨.ofString i.type, i.source.map Source.mk, t.implementation⟩ = e
  factories : ∀ n source, (∃ e, r.factory? n = some e ∧ e.source = source) ↔
    ∃ f ∈ m.factories, TypeName.ofString f.type = n ∧ f.source.map Source.mk = source
  viewEntries : ∀ n, r.viewEntries n =
    (m.views.filter fun v => TypeName.ofString v.type = n).map fun v =>
      ⟨.ofString v.type, v.source.map Source.mk, .ofString v.view⟩
  internalViews : ∀ n, r.internalViews n =
    ((m.views.filter fun v => TypeName.ofString v.type = n).map fun v =>
      TypeName.ofString v.view).eraseDups

/-! ### The registrations -/

/-- Everything between the declarations and the factories. -/
def memberCalls (m : Manifest) : List Call :=
  m.publicCalls ++ m.implementationCalls ++ m.viewCalls

theorem setupCalls_eq (m : Manifest) : m.setupCalls = m.declareCalls ++ m.memberCalls := by
  simp [setupCalls, memberCalls]

/-- A registration on the way declares no other types than those of the manifest. -/
theorem exists_toDecl_of_mem_memberCalls {c : Call} (hc : c ∈ m.memberCalls)
    (hd : c.decl? = some d) : ∃ t ∈ m.types, t.toDecl = d := by
  rcases List.mem_append.1 hc with hc | hc
  · rcases List.mem_append.1 hc with hc | hc
    · obtain ⟨t, ht, rfl⟩ := List.mem_map.1 hc
      exact ⟨t, (List.mem_filter.1 ht).1, Option.some.inj hd⟩
    · obtain ⟨i, _, hi⟩ := List.mem_filterMap.1 hc
      obtain ⟨t, ht, rfl⟩ := Option.map_eq_some_iff.1 hi
      exact ⟨t, List.mem_of_find?_eq_some ht, Option.some.inj hd⟩
  · obtain ⟨v, _, rfl⟩ := List.mem_map.1 hc
    cases hd

theorem stands_of_mem_memberCalls (hg : m.DeclaredIn g) {c : Call} (hc : c ∈ m.memberCalls) :
    Stands g c := by
  intro d hd
  obtain ⟨t, ht, rfl⟩ := exists_toDecl_of_mem_memberCalls hc hd
  exact hg.find?_toDecl ht

theorem suits_registerImplementation_iff (hg : m.DeclaredIn g) (ht : t ∈ m.types)
    {source : Option Source} :
    Suits g m.root (.registerImplementation n source t.implementation : Call) ↔ m.Serves t n := by
  have made : t.implementation.decl.isConcrete ∧ t.implementation.hasConstructor ↔
      t.kind = .concrete ∧ t.constructible := by
    rw [TypeItem.implementation, TypeDecl.isConcrete, toDecl_kind, Implementation.hasConstructor]
    cases t.constructible <;> simp
  rw [Suits, made, TypeItem.implementation, hg.reaches_iff ht, hg.reaches_iff ht, ← and_or_right]
  exact ⟨fun h => ⟨h.2.1, h.2.2, h.1⟩, fun h => ⟨h.below, h.concrete, h.constructible⟩⟩

/-- What is asked of the registrations, told by the manifest. -/
theorem forall_suits_memberCalls_iff (h : m.Consistent) (hg : m.DeclaredIn g) :
    (∀ c ∈ m.memberCalls, Suits g m.root c) ↔
      (∀ t ∈ m.types, t.isPublic →
        m.Below (.ofString t.name) m.root ∨ m.Open (.ofString t.name)) ∧
      ∀ i ∈ m.implementations, ∃ t ∈ m.types,
        TypeName.ofString t.name = TypeName.ofString i.implementation ∧
          m.Serves t (.ofString i.type) := by
  have publics : (∀ c ∈ m.publicCalls, Suits g m.root c) ↔ ∀ t ∈ m.types, t.isPublic →
      m.Below (.ofString t.name) m.root ∨ m.Open (.ofString t.name) := by
    simp only [publicCalls, List.forall_mem_map, List.mem_filter, and_imp, Suits]
    exact forall₂_congr fun t ht => imp_congr_right fun _ => hg.reaches_iff ht
  have implementations : (∀ c ∈ m.implementationCalls, Suits g m.root c) ↔
      ∀ i ∈ m.implementations, ∃ t ∈ m.types,
        TypeName.ofString t.name = TypeName.ofString i.implementation ∧
          m.Serves t (.ofString i.type) := by
    -- each entry is found among the types, so none is passed over
    simp only [implementationCalls, List.mem_filterMap, Option.map_eq_some_iff]
    constructor
    · intro hsuits i hi
      obtain ⟨t, ht⟩ := h.exists_typeItem? hi
      obtain ⟨hmem, hname⟩ := h.typeItem?_eq_some_iff.1 ht
      exact ⟨t, hmem, hname, (suits_registerImplementation_iff hg hmem).1
        (hsuits _ ⟨i, hi, t, ht, rfl⟩)⟩
    · rintro hserves _ ⟨i, hi, t, ht, rfl⟩
      obtain ⟨hmem, hname⟩ := h.typeItem?_eq_some_iff.1 ht
      obtain ⟨u, hu, hname', hserves⟩ := hserves i hi
      have hfound := h.typeItem?_eq_some_iff.2 ⟨hu, hname'⟩
      obtain rfl : t = u := Option.some.inj (ht.symm.trans hfound)
      exact (suits_registerImplementation_iff hg hmem).2 hserves
  have views : ∀ c ∈ m.viewCalls, Suits g m.root c := by
    simp [viewCalls, Suits]
  rw [memberCalls, List.forall_mem_append, List.forall_mem_append, publics, implementations]
  exact and_iff_left views

/-! ### What the registrations add -/

theorem filterMap_implementationCalls {σ : Type}
    (f : Registry.Call DeclaredInstance CreationContext → Option σ) :
    m.implementationCalls.filterMap f = m.implementations.filterMap fun i =>
      (m.typeItem? i.implementation).bind fun t =>
        f (.registerImplementation (.ofString i.type) (i.source.map Source.mk) t.implementation) := by
  simp only [implementationCalls, List.filterMap_filterMap, Option.bind_map]
  rfl

theorem factories_memberCalls (m : Manifest) : m.memberCalls.filterMap Call.factory? = [] := by
  simp [memberCalls, publicCalls, filterMap_implementationCalls, viewCalls, Function.comp_def]

theorem implementations_memberCalls (m : Manifest) :
    m.memberCalls.filterMap Call.implementation? = m.implementations.filterMap fun i =>
      (m.typeItem? i.implementation).map fun t =>
        ⟨.ofString i.type, i.source.map Source.mk, t.implementation⟩ := by
  simp [memberCalls, publicCalls, filterMap_implementationCalls, viewCalls, Function.comp_def,
    Option.map_eq_bind]

/-- The implementations keep the types that they are registered for, in order. -/
theorem types_implementations_memberCalls (h : m.Consistent) :
    (m.memberCalls.filterMap Call.implementation?).map (·.type) =
      m.implementations.map fun i => TypeName.ofString i.type := by
  have found : ∀ i ∈ m.implementations,
      ((m.typeItem? i.implementation).map fun t => (⟨.ofString i.type, i.source.map Source.mk,
        t.implementation⟩ : ImplementationEntry DeclaredInstance)).map (·.type) =
          some (TypeName.ofString i.type) := by
    intro i hi
    obtain ⟨t, ht⟩ := h.exists_typeItem? hi
    rw [ht]
    rfl
  rw [implementations_memberCalls, List.map_filterMap, List.filterMap_congr found,
    List.filterMap_eq_map']

/-! ### Building -/

theorem build_eq_ok_iff : m.build = .ok r ↔ ∃ r₀, m.emptyRegistry.applyAll m.setupCalls = .ok r₀ ∧
    r₀.applyAll (m.factories.map (·.call r₀)) = .ok r :=
  bind_ok_iff

/-- What is built from a manifest is one of the registries that registrations lead to. -/
theorem reachable_of_build (hr : m.build = .ok r) : r.Reachable := by
  obtain ⟨_, hsetup, hfactories⟩ := build_eq_ok_iff.1 hr
  have hall := applyAll_append_eq_ok_iff.2 ⟨_, hsetup, hfactories⟩
  exact ⟨m.family.displayName, .ofString m.family.root, _, (run_of_applyAll hall).symm⟩

theorem factories_calls (r₀ : ManifestRegistry) (fs : List FactoryItem) :
    (fs.map (·.call r₀)).filterMap Call.factory? = fs.map fun f =>
      ⟨.ofString f.type, f.source.map Source.mk, DeclaredInstance.factory (.ofString f.type)
        ((r₀.resolve (.ofString f.type)).toOption.map (·.implementation))⟩ := by
  simp [Function.comp_def, FactoryItem.call, sourceOf]

/-- The registrations that follow the declarations are accepted where they suit and no type has two
implementations. -/
theorem exists_applyAll_setupCalls_iff (h : m.Consistent) :
    (∃ r, m.emptyRegistry.applyAll m.setupCalls = .ok r) ↔
      (∃ r, m.emptyRegistry.applyAll m.declareCalls = .ok r) ∧
        ((∀ t ∈ m.types, t.isPublic →
          m.Below (.ofString t.name) m.root ∨ m.Open (.ofString t.name)) ∧
        ∀ i ∈ m.implementations, ∃ t ∈ m.types,
          TypeName.ofString t.name = TypeName.ofString i.implementation ∧
            m.Serves t (.ofString i.type)) ∧
        (m.implementations.map fun i => TypeName.ofString i.type).Nodup := by
  have members : ∀ r₀, m.emptyRegistry.applyAll m.declareCalls = .ok r₀ →
      ((∃ r, r₀.applyAll m.memberCalls = .ok r) ↔ (∀ c ∈ m.memberCalls, Suits r₀.graph m.root c) ∧
        (m.implementations.map fun i => TypeName.ofString i.type).Nodup) := by
    intro r₀ hr₀
    have hg := declaredIn_of_applyAll hr₀ exists_declareCalls_iff
    have collects := collects_of_applyAll hr₀
    have hfactories : r₀.factories = [] := by
      simp [collects.factories, declareCalls, emptyRegistry, empty, Function.comp_def]
    have himplementations : r₀.implementations = [] := by
      simp [collects.implementations, declareCalls, emptyRegistry, empty, Function.comp_def]
    rw [exists_applyAll_iff_of_stands (wellFormed_of_applyAll hr₀) fun c hc =>
      stands_of_mem_memberCalls hg hc, collects.root, hfactories, himplementations,
      List.nil_append, List.nil_append, factories_memberCalls,
      types_implementations_memberCalls h]
    exact and_congr_right fun _ => and_iff_right List.nodup_nil
  simp only [setupCalls_eq, applyAll_append_eq_ok_iff]
  constructor
  · rintro ⟨r, r₀, hr₀, hr⟩
    have hg := declaredIn_of_applyAll hr₀ exists_declareCalls_iff
    obtain ⟨hsuits, hnodup⟩ := (members r₀ hr₀).1 ⟨r, hr⟩
    exact ⟨⟨r₀, hr₀⟩, (forall_suits_memberCalls_iff h hg).1 hsuits, hnodup⟩
  · rintro ⟨⟨r₀, hr₀⟩, hsuits, hnodup⟩
    have hg := declaredIn_of_applyAll hr₀ exists_declareCalls_iff
    obtain ⟨r, hr⟩ := (members r₀ hr₀).2 ⟨(forall_suits_memberCalls_iff h hg).2 hsuits, hnodup⟩
    exact ⟨r, r₀, hr₀, hr⟩

/-- There are no factories yet when their turn comes. -/
theorem factories_of_setupCalls {r₀ : ManifestRegistry}
    (h : m.emptyRegistry.applyAll m.setupCalls = .ok r₀) : r₀.factories = [] := by
  simp [(collects_of_applyAll h).factories, setupCalls_eq, factories_memberCalls, declareCalls,
    emptyRegistry, empty, Function.comp_def]

/-- Factories are accepted where no type has two. -/
theorem exists_applyAll_factories_iff {r₀ : ManifestRegistry}
    (h : m.emptyRegistry.applyAll m.setupCalls = .ok r₀) :
    (∃ r, r₀.applyAll (m.factories.map (·.call r₀)) = .ok r) ↔
      (m.factories.map fun f => TypeName.ofString f.type).Nodup := by
  have wf := wellFormed_of_applyAll h
  have stands : ∀ c ∈ m.factories.map (·.call r₀), Stands r₀.graph c := by
    intro c hc d hd
    obtain ⟨f, _, rfl⟩ := List.mem_map.1 hc
    cases hd
  have suits : ∀ c ∈ m.factories.map (·.call r₀), Suits r₀.graph r₀.root c := by
    intro c hc
    obtain ⟨f, _, rfl⟩ := List.mem_map.1 hc
    trivial
  have himplementations : (m.factories.map (·.call r₀)).filterMap Call.implementation? = [] := by
    simp [FactoryItem.call]
  rw [exists_applyAll_iff_of_stands wf stands, factories_of_setupCalls h, factories_calls,
    himplementations, List.nil_append, List.append_nil, List.map_map]
  exact (and_iff_right suits).trans (and_iff_left wf.implementations_nodup)

/-- A consistent manifest is built into a registry exactly if it loads. -/
theorem exists_build_iff (h : m.Consistent) : (∃ r, m.build = .ok r) ↔ m.Loads := by
  have split : (∃ r, m.build = .ok r) ↔ (∃ r₀, m.emptyRegistry.applyAll m.setupCalls = .ok r₀) ∧
      (m.factories.map fun f => TypeName.ofString f.type).Nodup := by
    simp only [build_eq_ok_iff]
    constructor
    · rintro ⟨r, r₀, hr₀, hr⟩
      exact ⟨⟨r₀, hr₀⟩, (exists_applyAll_factories_iff hr₀).1 ⟨r, hr⟩⟩
    · rintro ⟨⟨r₀, hr₀⟩, hnodup⟩
      obtain ⟨r, hr⟩ := (exists_applyAll_factories_iff hr₀).2 hnodup
      exact ⟨r, r₀, hr₀, hr⟩
  rw [split, exists_applyAll_setupCalls_iff h, exists_applyAll_declareCalls_iff h]
  constructor
  · rintro ⟨⟨⟨hacyclic, hroot⟩, ⟨hpublic, himplementations⟩, hnodup⟩, hfactories⟩
    exact ⟨hacyclic, hroot, hpublic, himplementations, hnodup, hfactories⟩
  · intro h
    exact ⟨⟨⟨h.acyclic, h.root_interface⟩, ⟨h.publicTypes, h.implementations⟩,
      h.implementations_nodup⟩, h.factories_nodup⟩

/-! ### Content -/

theorem exists_setupCalls_iff (r₀ : ManifestRegistry) (d : TypeDecl) :
    (∃ c ∈ m.setupCalls ++ m.factories.map (·.call r₀), c.decl? = some d) ↔
      ∃ t ∈ m.types, t.toDecl = d := by
  rw [setupCalls_eq]
  constructor
  · rintro ⟨c, hc, hd⟩
    rcases List.mem_append.1 hc with hc | hc
    · rcases List.mem_append.1 hc with hc | hc
      · exact (exists_declareCalls_iff d).1 ⟨c, hc, hd⟩
      · exact exists_toDecl_of_mem_memberCalls hc hd
    · obtain ⟨f, _, rfl⟩ := List.mem_map.1 hc
      cases hd
  · intro ht
    obtain ⟨c, hc, hd⟩ := (exists_declareCalls_iff d).2 ht
    exact ⟨c, List.mem_append_left _ (List.mem_append_left _ hc), hd⟩

theorem publicTypes_calls (r₀ : ManifestRegistry) :
    (m.setupCalls ++ m.factories.map (·.call r₀)).filterMap Call.publicType? =
      (m.types.filter (·.isPublic)).map fun t => TypeName.ofString t.name := by
  simp [setupCalls_eq, memberCalls, declareCalls, publicCalls, filterMap_implementationCalls,
    viewCalls, FactoryItem.call, Function.comp_def, toDecl_name]

theorem views_calls (r₀ : ManifestRegistry) :
    (m.setupCalls ++ m.factories.map (·.call r₀)).filterMap Call.view? =
      m.views.map fun v => ⟨.ofString v.type, v.source.map Source.mk, .ofString v.view⟩ := by
  simp [setupCalls_eq, memberCalls, declareCalls, publicCalls, filterMap_implementationCalls,
    viewCalls, FactoryItem.call, Function.comp_def, sourceOf]

theorem implementations_calls (r₀ : ManifestRegistry) :
    (m.setupCalls ++ m.factories.map (·.call r₀)).filterMap Call.implementation? =
      m.implementations.filterMap fun i => (m.typeItem? i.implementation).map fun t =>
        ⟨.ofString i.type, i.source.map Source.mk, t.implementation⟩ := by
  rw [setupCalls_eq, List.filterMap_append, List.filterMap_append, implementations_memberCalls]
  simp [declareCalls, FactoryItem.call, Function.comp_def]

theorem factories_all_calls (r₀ : ManifestRegistry) :
    (m.setupCalls ++ m.factories.map (·.call r₀)).filterMap Call.factory? =
      m.factories.map fun f => ⟨.ofString f.type, f.source.map Source.mk,
        DeclaredInstance.factory (.ofString f.type)
          ((r₀.resolve (.ofString f.type)).toOption.map (·.implementation))⟩ := by
  rw [setupCalls_eq, List.filterMap_append, List.filterMap_append, factories_memberCalls,
    factories_calls]
  simp [declareCalls, Function.comp_def]

theorem publicNames_nodup (h : m.Consistent) :
    ((m.types.filter (·.isPublic)).map fun t => TypeName.ofString t.name).Nodup := by
  have hnodup : (m.types.map fun t => TypeName.ofString t.name).Nodup := by
    simpa [Function.comp_def, toDecl_name] using h.decls_nodup
  exact hnodup.sublist (List.filter_sublist.map _)

/-- What is built from a manifest is what the manifest describes. -/
theorem describes_of_build (h : m.Consistent) (hr : m.build = .ok r) : m.Describes r := by
  obtain ⟨r₀, hr₀, hfactories⟩ := build_eq_ok_iff.1 hr
  have hall := applyAll_append_eq_ok_iff.2 ⟨r₀, hr₀, hfactories⟩
  have collects := collects_of_applyAll hall
  have wf := wellFormed_of_applyAll hall
  have views : ∀ n, r.viewEntries n = (m.views.filter fun v => TypeName.ofString v.type = n).map
      fun v => ⟨.ofString v.type, v.source.map Source.mk, .ofString v.view⟩ := by
    intro n
    rw [viewEntries, collects.views, views_calls]
    simp [emptyRegistry, empty, List.filter_map, Function.comp_def]
  refine ⟨collects.displayName, collects.root,
    declaredIn_of_applyAll hall (exists_setupCalls_iff r₀), ?_, fun n e => ?_, fun n source => ?_,
    views, fun n => ?_⟩
  · have hpublic := publicTypes_of_applyAll hall
    rw [publicTypes_calls] at hpublic
    exact hpublic (publicNames_nodup h)
  · rw [implementation?, Keyed.find?_eq_some_iff wf.implementations_nodup, collects.implementations,
      implementations_calls, and_comm]
    refine and_congr_right fun _ => ?_
    simp [emptyRegistry, empty, h.typeItem?_eq_some_iff, and_assoc]
  · have lookup : ∀ e, r.factory? n = some e ↔ e ∈ r.factories ∧ e.type = n := fun e =>
      Keyed.find?_eq_some_iff wf.factories_nodup
    simp only [lookup, collects.factories, factories_all_calls, emptyRegistry, empty,
      List.nil_append, List.mem_map]
    constructor
    · rintro ⟨_, ⟨⟨f, hf, rfl⟩, htype⟩, hsource⟩
      exact ⟨f, hf, htype, hsource⟩
    · rintro ⟨f, hf, htype, hsource⟩
      exact ⟨_, ⟨⟨f, hf, rfl⟩, htype⟩, hsource⟩
  · rw [internalViews_eq, views, List.map_map]
    rfl

/-- CORRECT: an accepted manifest is built into a registry exactly if it loads, and the registry
then holds what the manifest lists: its declarations, its public types in their order, each
implementation and each factory with its source, and on every type the distinct views. -/
theorem build_faithful (h : m.validate = .ok ()) :
    ((∃ r, m.build = .ok r) ↔ m.Loads) ∧ ∀ r, m.build = .ok r → m.Describes r := by
  have consistent := validate_eq_ok_iff.1 h
  exact ⟨exists_build_iff consistent, fun r => describes_of_build consistent⟩

/-- Names are spelled with blanks around them, `Ring` comes before the type that it extends, and
`Drawable` is not declared. -/
def spacedManifest : Manifest where
  family := { displayName := "shapes", root := " Shape" }
  types :=
    [{ name := "Ring ", supertypes := ["Circle"], isPublic := true, managed := true },
      { name := "Circle", supertypes := ["Drawable", "Shape\t"], isPublic := true },
      { name := "Disc", supertypes := [" Circle"], kind := .concrete }]
  implementations := [{ type := "Circle ", implementation := " Disc", source := some "core" }]
  views := [{ type := " Circle", view := "Shape" }, { type := "Circle", view := "Shape " }]
  factories := [{ type := "Ring", source := some "" }]

/-- What the manifest registers before its factory, with names as they are compared. -/
def spacedCalls : List Call :=
  let ring : TypeDecl := { name := ⟨"Ring"⟩, supertypes := [⟨"Circle"⟩], managed := true }
  let circle : TypeDecl := { name := ⟨"Circle"⟩, supertypes := [⟨"Drawable"⟩, ⟨"Shape"⟩] }
  let disc : TypeDecl := { name := ⟨"Disc"⟩, supertypes := [⟨"Circle"⟩], kind := .concrete }
  [.declareType ring, .declareType circle, .declareType disc,
    .registerPublicType ring, .registerPublicType circle,
    .registerImplementation ⟨"Circle"⟩ (some ⟨"core"⟩) ⟨disc, some (.ofConstructor ⟨"Disc"⟩)⟩,
    .registerInternalView ⟨"Circle"⟩ none ⟨"Shape"⟩,
    .registerInternalView ⟨"Circle"⟩ none ⟨"Shape"⟩]

theorem exists_build_spacedManifest : ∃ r, spacedManifest.build = .ok r := by
  have setup : spacedManifest.setupCalls = spacedCalls := by rfl
  have start : spacedManifest.emptyRegistry = empty "shapes" ⟨"Shape"⟩ := by rfl
  have accepted : spacedManifest.emptyRegistry.applyAll spacedManifest.setupCalls =
      .ok ((empty "shapes" ⟨"Shape"⟩ : ManifestRegistry).run spacedCalls) := by
    rw [setup, start]
    cbv
  obtain ⟨r, hr⟩ := (exists_applyAll_factories_iff accepted).2 (by decide)
  exact ⟨r, build_eq_ok_iff.2 ⟨_, accepted, hr⟩⟩

/-- The manifest loads, into a registry that holds what it lists, each source as it is spelled, also
the empty one. -/
theorem build_faithful_spaced : spacedManifest.validate = .ok () ∧ spacedManifest.Loads ∧
    ∃ r, spacedManifest.build = .ok r ∧ spacedManifest.Describes r ∧
      r.publicTypes = [⟨"Ring"⟩, ⟨"Circle"⟩] ∧ r.internalViews ⟨"Circle"⟩ = [⟨"Shape"⟩] ∧
      (∃ e, r.implementation? ⟨"Circle"⟩ = some e ∧ e.source = some ⟨"core"⟩ ∧
        e.implementation.decl.name = ⟨"Disc"⟩) ∧
      (∃ e, r.factory? ⟨"Ring"⟩ = some e ∧ e.source = some ⟨""⟩) ∧
      r.viewEntries ⟨"Circle"⟩ =
        [⟨⟨"Circle"⟩, none, ⟨"Shape"⟩⟩, ⟨⟨"Circle"⟩, none, ⟨"Shape"⟩⟩] := by
  have valid : spacedManifest.validate = .ok () := by rfl
  obtain ⟨r, built⟩ := exists_build_spacedManifest
  obtain ⟨loads, describes⟩ := build_faithful valid
  refine ⟨valid, loads.1 ⟨r, built⟩, r, built, describes r built, ?_, ?_, ?_, ?_, ?_⟩
  · exact (describes r built).publicTypes
  · exact (describes r built).internalViews _
  · have disc := ((describes r built).implementations ⟨"Circle"⟩ _).2
      ⟨rfl, _, .head _, _, .tail _ (.tail _ (.head _)), rfl, rfl⟩
    exact ⟨_, disc, rfl, rfl⟩
  · exact ((describes r built).factories ⟨"Ring"⟩ _).2 ⟨_, .head _, rfl, rfl⟩
  · exact (describes r built).viewEntries _

end TypeFamily.Manifest
