import TypeFamily.Proofs.Manifest.Faithful

/-!
How a manifest spells the names of types does not matter. White space at the ends is no part of a
name, wherever the name stands: a manifest with other white space there has the same flaws or none,
and builds the same registry, and whatever is asked by name is answered alike for every spelling.

Both manifests are compared with one that has no such white space. Each part of a registration is
the same for a manifest as for that one.
-/

namespace TypeFamily.Manifest

variable {m m' : Manifest} {name name' : String}

/-! ### Names without blanks -/

def Family.trimmed (f : Family) : Family :=
  { f with root := Text.trim f.root }

def TypeItem.trimmed (t : TypeItem) : TypeItem :=
  { t with name := Text.trim t.name, supertypes := t.supertypes.map Text.trim }

def ImplementationItem.trimmed (i : ImplementationItem) : ImplementationItem :=
  { i with type := Text.trim i.type, implementation := Text.trim i.implementation }

def ViewItem.trimmed (v : ViewItem) : ViewItem :=
  { v with type := Text.trim v.type, view := Text.trim v.view }

def FactoryItem.trimmed (f : FactoryItem) : FactoryItem :=
  { f with type := Text.trim f.type }

/-- The manifest with every name of a type spelled without blanks at its ends. -/
def trimmed (m : Manifest) : Manifest where
  family := m.family.trimmed
  types := m.types.map (·.trimmed)
  implementations := m.implementations.map (·.trimmed)
  views := m.views.map (·.trimmed)
  factories := m.factories.map (·.trimmed)

/-- The flaw with the names in it spelled so. -/
def Flaw.trimmed : Flaw → Flaw
  | emptyRoot => emptyRoot
  | emptyTypeName => emptyTypeName
  | repeatedType name => repeatedType (Text.trim name)
  | emptySupertype name => emptySupertype (Text.trim name)
  | emptyName key => emptyName key
  | undeclaredImplementation implementation type =>
      undeclaredImplementation (Text.trim implementation) (Text.trim type)

/-! ### The same flaws -/

theorem typeItem?_congr (m : Manifest) (h : Text.trim name = Text.trim name') :
    m.typeItem? name = m.typeItem? name' := by
  rw [typeItem?, h, typeItem?]

theorem typeItem?_trimmed (m : Manifest) (name : String) :
    m.trimmed.typeItem? name = (m.typeItem? name).map (·.trimmed) := by
  have same : (fun t : TypeItem => decide (Text.trim t.name = Text.trim name)) ∘ TypeItem.trimmed =
      fun t => decide (Text.trim t.name = Text.trim name) := by
    funext t
    simp [TypeItem.trimmed]
  rw [typeItem?, trimmed, List.find?_map, same, typeItem?]

theorem blank?_trim (key name : String) :
    blank? key (Text.trim name) = (blank? key name).map (·.trimmed) := by
  rw [blank?, blank?, Text.isBlankText_trim]
  cases Text.isBlankText name <;> rfl

theorem typesFlaw?_trimmed (declared : List String) (ts : List TypeItem) :
    typesFlaw? declared (ts.map (·.trimmed)) = (typesFlaw? declared ts).map (·.trimmed) := by
  induction ts generalizing declared with
  | nil => rfl
  | cons t ts ih =>
    have supertypes : t.trimmed.supertypes.any Text.isBlankText =
        t.supertypes.any Text.isBlankText := by
      simp [TypeItem.trimmed, List.any_map, Function.comp_def]
    rw [List.map_cons, typesFlaw?, typesFlaw?, supertypes]
    simp only [TypeItem.trimmed, Text.isBlankText_trim, Text.trim_trim]
    by_cases hname : Text.isBlankText t.name
    · simp [hname, Flaw.trimmed]
    · by_cases hnew : Text.trim t.name ∈ declared
      · simp [hname, hnew, Flaw.trimmed]
      · by_cases hsup : t.supertypes.any Text.isBlankText
        · simp [hname, hnew, hsup, Flaw.trimmed]
        · rw [if_neg hname, if_neg hnew, if_neg hsup, if_neg hname, if_neg hnew, if_neg hsup]
          exact ih _

theorem implementationFlaw?_trimmed (m : Manifest) (i : ImplementationItem) :
    m.trimmed.implementationFlaw? i.trimmed = (m.implementationFlaw? i).map (·.trimmed) := by
  have known : (m.trimmed.typeItem? (Text.trim i.implementation)).isSome =
      (m.typeItem? i.implementation).isSome := by
    rw [typeItem?_trimmed, Option.isSome_map, typeItem?_congr m (Text.trim_trim _)]
  simp only [implementationFlaw?, ImplementationItem.trimmed, blank?_trim, known, Option.map_or]
  cases (m.typeItem? i.implementation).isSome <;> rfl

theorem viewFlaw?_trimmed (v : ViewItem) :
    viewFlaw? v.trimmed = (viewFlaw? v).map (·.trimmed) := by
  simp only [viewFlaw?, ViewItem.trimmed, blank?_trim, Option.map_or]

theorem factoryFlaw?_trimmed (f : FactoryItem) :
    factoryFlaw? f.trimmed = (factoryFlaw? f).map (·.trimmed) :=
  blank?_trim _ _

/-- The first flaw of a list of items, each of which has the same flaw without blanks. -/
theorem findSome?_trimmed {ι : Type} {flaw? flaw?' : ι → Option Flaw} {trim : ι → ι}
    (h : ∀ x, flaw?' (trim x) = (flaw? x).map (·.trimmed)) (xs : List ι) :
    (xs.map trim).findSome? flaw?' = (xs.findSome? flaw?).map (·.trimmed) := by
  have pointwise : flaw?' ∘ trim = Option.map (·.trimmed) ∘ flaw? := funext h
  rw [List.findSome?_map, List.map_findSome?, pointwise]

/-- A manifest has the same first flaw without blanks as with them. -/
theorem flaw?_trimmed (m : Manifest) : m.trimmed.flaw? = m.flaw?.map (·.trimmed) := by
  have root : (if Text.isBlankText m.trimmed.family.root then some Flaw.emptyRoot else none) =
      (if Text.isBlankText m.family.root then some Flaw.emptyRoot else none).map (·.trimmed) := by
    rw [trimmed, Family.trimmed, Text.isBlankText_trim]
    cases Text.isBlankText m.family.root <;> rfl
  have types : typesFlaw? [] m.trimmed.types = (typesFlaw? [] m.types).map (·.trimmed) :=
    typesFlaw?_trimmed [] m.types
  have implementations := findSome?_trimmed m.implementationFlaw?_trimmed m.implementations
  have views := findSome?_trimmed viewFlaw?_trimmed m.views
  have factories := findSome?_trimmed factoryFlaw?_trimmed m.factories
  rw [flaw?, flaw?, root, types, Option.map_or, Option.map_or, Option.map_or, Option.map_or,
    ← implementations, ← views, ← factories]
  rfl

theorem validate_trimmed_eq_ok_iff (m : Manifest) :
    m.trimmed.validate = .ok () ↔ m.validate = .ok () := by
  rw [validate, validate, flaw?_trimmed]
  cases m.flaw? <;> simp

/-! ### The same registry -/

theorem TypeItem.toDecl_trimmed (t : TypeItem) : t.trimmed.toDecl = t.toDecl := by
  simp only [toDecl, trimmed, TypeDecl.ofStrings, TypeName.ofString_trim, List.map_map,
    Function.comp_def]

theorem TypeItem.implementation_trimmed (t : TypeItem) :
    t.trimmed.implementation = t.implementation := by
  simp only [implementation, toDecl_trimmed]
  simp only [trimmed, TypeName.ofString_trim]

theorem declareCalls_trimmed (m : Manifest) : m.trimmed.declareCalls = m.declareCalls := by
  simp only [declareCalls, trimmed, List.map_map, Function.comp_def, TypeItem.toDecl_trimmed]

theorem publicCalls_trimmed (m : Manifest) : m.trimmed.publicCalls = m.publicCalls := by
  have isPublic : (·.isPublic) ∘ TypeItem.trimmed = (·.isPublic) := rfl
  simp only [publicCalls, trimmed, List.filter_map, isPublic, List.map_map, Function.comp_def,
    TypeItem.toDecl_trimmed]

theorem implementationCalls_trimmed (m : Manifest) :
    m.trimmed.implementationCalls = m.implementationCalls := by
  have found : ∀ i : ImplementationItem, m.trimmed.typeItem? i.trimmed.implementation =
      (m.typeItem? i.implementation).map (·.trimmed) := fun i => by
    rw [typeItem?_trimmed, ImplementationItem.trimmed, typeItem?_congr m (Text.trim_trim _)]
  rw [implementationCalls, implementationCalls, show m.trimmed.implementations =
    m.implementations.map (·.trimmed) from rfl, List.filterMap_map]
  refine congrArg (m.implementations.filterMap ·) (funext fun i => ?_)
  simp only [Function.comp_apply, found, Option.map_map, Function.comp_def,
    TypeItem.implementation_trimmed]
  simp only [ImplementationItem.trimmed, TypeName.ofString_trim]

theorem viewCalls_trimmed (m : Manifest) : m.trimmed.viewCalls = m.viewCalls := by
  simp only [viewCalls, trimmed, List.map_map, Function.comp_def, ViewItem.trimmed,
    TypeName.ofString_trim]

theorem FactoryItem.call_trimmed (r : ManifestRegistry) (f : FactoryItem) :
    f.trimmed.call r = f.call r := by
  simp only [call, trimmed, TypeName.ofString_trim]

theorem emptyRegistry_trimmed (m : Manifest) : m.trimmed.emptyRegistry = m.emptyRegistry := by
  simp only [emptyRegistry, trimmed, Family.trimmed, TypeName.ofString_trim]

/-- Without blanks, a manifest builds what it builds with them, or is refused for the same. -/
theorem build_trimmed (m : Manifest) : m.trimmed.build = m.build := by
  have factories : ∀ r, m.trimmed.factories.map (·.call r) = m.factories.map (·.call r) :=
    fun r => by
      simp only [trimmed, List.map_map, Function.comp_def, FactoryItem.call_trimmed]
  simp only [build, setupCalls, emptyRegistry_trimmed, declareCalls_trimmed, publicCalls_trimmed,
    implementationCalls_trimmed, viewCalls_trimmed, factories]

/-! ### Manifests that differ in blanks only -/

/-- The types are spelled alike inside, and are the same otherwise. -/
structure TypeItem.Respells (t t' : TypeItem) : Prop where
  name : Text.SameInside t.name t'.name
  supertypes : List.Forall₂ Text.SameInside t.supertypes t'.supertypes
  rest : t' = { t with name := t'.name, supertypes := t'.supertypes }

structure ImplementationItem.Respells (i i' : ImplementationItem) : Prop where
  type : Text.SameInside i.type i'.type
  implementation : Text.SameInside i.implementation i'.implementation
  rest : i' = { i with type := i'.type, implementation := i'.implementation }

structure ViewItem.Respells (v v' : ViewItem) : Prop where
  type : Text.SameInside v.type v'.type
  view : Text.SameInside v.view v'.view
  rest : v' = { v with type := v'.type, view := v'.view }

structure FactoryItem.Respells (f f' : FactoryItem) : Prop where
  type : Text.SameInside f.type f'.type
  rest : f' = { f with type := f'.type }

/-- The manifests differ by white space at the ends of names of types only. -/
structure Respells (m m' : Manifest) : Prop where
  root : Text.SameInside m.family.root m'.family.root
  family : m'.family = { m.family with root := m'.family.root }
  types : List.Forall₂ TypeItem.Respells m.types m'.types
  implementations : List.Forall₂ ImplementationItem.Respells m.implementations m'.implementations
  views : List.Forall₂ ViewItem.Respells m.views m'.views
  factories : List.Forall₂ FactoryItem.Respells m.factories m'.factories

theorem map_eq_map_of_forall₂ {ι κ : Type} {R : ι → ι → Prop} {f : ι → κ} {xs ys : List ι}
    (h : ∀ {x y}, R x y → f x = f y) (hxs : List.Forall₂ R xs ys) : xs.map f = ys.map f := by
  rw [← List.forall₂_eq_eq_eq, List.forall₂_map_left_iff, List.forall₂_map_right_iff]
  exact hxs.imp fun _ _ => h

theorem TypeItem.Respells.trimmed_eq {t t' : TypeItem} (h : t.Respells t') :
    t.trimmed = t'.trimmed := by
  have supertypes : t.supertypes.map Text.trim = t'.supertypes.map Text.trim :=
    map_eq_map_of_forall₂ Text.sameInside_iff.1 h.supertypes
  rw [trimmed, trimmed, Text.sameInside_iff.1 h.name, supertypes, h.rest]

theorem ImplementationItem.Respells.trimmed_eq {i i' : ImplementationItem} (h : i.Respells i') :
    i.trimmed = i'.trimmed := by
  rw [trimmed, trimmed, Text.sameInside_iff.1 h.type, Text.sameInside_iff.1 h.implementation,
    h.rest]

theorem ViewItem.Respells.trimmed_eq {v v' : ViewItem} (h : v.Respells v') :
    v.trimmed = v'.trimmed := by
  rw [trimmed, trimmed, Text.sameInside_iff.1 h.type, Text.sameInside_iff.1 h.view, h.rest]

theorem FactoryItem.Respells.trimmed_eq {f f' : FactoryItem} (h : f.Respells f') :
    f.trimmed = f'.trimmed := by
  rw [trimmed, trimmed, Text.sameInside_iff.1 h.type, h.rest]

/-- Manifests that differ in blanks only are one manifest without them. -/
theorem Respells.trimmed_eq (h : m.Respells m') : m.trimmed = m'.trimmed := by
  have family : m.family.trimmed = m'.family.trimmed := by
    rw [Family.trimmed, Family.trimmed, Text.sameInside_iff.1 h.root, h.family]
  have types := map_eq_map_of_forall₂ (f := (·.trimmed)) TypeItem.Respells.trimmed_eq h.types
  have implementations := map_eq_map_of_forall₂ (f := (·.trimmed))
    ImplementationItem.Respells.trimmed_eq h.implementations
  have views := map_eq_map_of_forall₂ (f := (·.trimmed)) ViewItem.Respells.trimmed_eq h.views
  have factories := map_eq_map_of_forall₂ (f := (·.trimmed)) FactoryItem.Respells.trimmed_eq
    h.factories
  rw [trimmed, trimmed, family, types, implementations, views, factories]

/-- CORRECT: manifests that differ by white space at the ends of names of types only are accepted or
refused together and build the same registry, or fail to with the same error; and by whatever
spelling of a name they are asked, they answer alike, up to the spellings that a type is declared
with. -/
theorem build_respelled (h : m.Respells m') :
    (m'.validate = .ok () ↔ m.validate = .ok ()) ∧ m'.build = m.build ∧
    ∀ name name', Text.trim name = Text.trim name' →
      (m'.typeItem? name').map (·.trimmed) = (m.typeItem? name).map (·.trimmed) ∧
      ∀ r r', m.build = .ok r → m'.build = .ok r' →
        r'.resolve (.ofString name') = r.resolve (.ofString name) ∧
        r'.internalViews (.ofString name') = r.internalViews (.ofString name) ∧
        r'.hasFactory (.ofString name') = r.hasFactory (.ofString name) ∧
        r'.hasImplementation (.ofString name') = r.hasImplementation (.ofString name) ∧
        r'.newDefaultInstance (.ofString name') = r.newDefaultInstance (.ofString name) ∧
        ∀ context instanceName, r'.create (.ofString name') context instanceName =
          r.create (.ofString name) context instanceName := by
  have build : m'.build = m.build := by
    rw [← build_trimmed m', ← h.trimmed_eq, build_trimmed]
  refine ⟨?_, build, fun name name' hname => ⟨?_, fun r r' hr hr' => ?_⟩⟩
  · rw [← validate_trimmed_eq_ok_iff m', ← h.trimmed_eq, validate_trimmed_eq_ok_iff]
  · rw [← typeItem?_trimmed, ← typeItem?_trimmed, h.trimmed_eq, typeItem?_congr _ hname]
  · obtain rfl : r = r' := by
      rw [build, hr] at hr'
      exact Except.ok.inj hr'
    rw [ofString_eq_iff.2 hname]
    exact ⟨rfl, rfl, rfl, rfl, rfl, fun _ _ => rfl⟩

/-- The manifest with other white space around its names. -/
def respelledManifest : Manifest where
  family := { displayName := "shapes", root := "Shape\u3000" }
  types :=
    [{ name := "\tRing", supertypes := ["Circle\u2028"], isPublic := true, managed := true },
      { name := "Circle", supertypes := ["\u00a0Drawable", "Shape"], isPublic := true },
      { name := "Disc\n", supertypes := ["Circle"], kind := .concrete }]
  implementations := [{ type := "Circle", implementation := "Disc", source := some "core" }]
  views := [{ type := "Circle", view := " Shape" }, { type := "Circle\r", view := "Shape" }]
  factories := [{ type := "\u2003Ring", source := some "" }]

theorem respells_respelledManifest : spacedManifest.Respells respelledManifest := by
  have same : ∀ {s s' : String}, Text.trim s = Text.trim s' → Text.SameInside s s' :=
    Text.sameInside_iff.2
  exact
    { root := same (by cbv)
      family := rfl
      types := .cons ⟨same (by cbv), .cons (same (by cbv)) .nil, rfl⟩ <|
        .cons ⟨same (by cbv), .cons (same (by cbv)) (.cons (same (by cbv)) .nil), rfl⟩ <|
        .cons ⟨same (by cbv), .cons (same (by cbv)) .nil, rfl⟩ .nil
      implementations := .cons ⟨same (by cbv), same (by cbv), rfl⟩ .nil
      views := .cons ⟨same (by cbv), same (by cbv), rfl⟩ <| .cons ⟨same (by cbv), same (by cbv), rfl⟩ .nil
      factories := .cons ⟨same (by cbv), rfl⟩ .nil }

/-- Both manifests build one registry, and a default instance is made for any spelling. -/
theorem build_respelled_spaced : spacedManifest.Respells respelledManifest ∧
    respelledManifest.validate = .ok () ∧
    ∃ r, spacedManifest.build = .ok r ∧ respelledManifest.build = .ok r ∧
      r.newDefaultInstance (.ofString "\u00a0Ring\n") = r.newDefaultInstance (.ofString "Ring") := by
  have valid : spacedManifest.validate = .ok () := by rfl
  have spelling : Text.trim "Ring" = Text.trim "\u00a0Ring\n" := by rfl
  obtain ⟨r, hr⟩ := exists_build_spacedManifest
  obtain ⟨accepted, built, answers⟩ := build_respelled respells_respelledManifest
  rw [hr] at built
  refine ⟨respells_respelledManifest, accepted.2 valid, r, hr, built, ?_⟩
  exact ((answers _ _ spelling).2 r r hr built).2.2.2.2.1

end TypeFamily.Manifest
