import TypeFamily.Manifest.Validate
import TypeFamily.Proofs.Keyed

/-!
What a manifest has to be like to be accepted, with names compared after trimming: no name is blank,
no type is declared twice, and every implementation is one of the declared types. A type is then
found by any spelling of its name, wherever in the manifest it stands.
-/

namespace TypeFamily.Manifest

variable {m : Manifest} {s : String} {key : String} {i : ImplementationItem} {v : ViewItem}
  {f : FactoryItem} {t : TypeItem}

/-! ### Names -/

/-- Something is left of a name when it is trimmed. -/
def Named (s : String) : Prop :=
  Text.trim s ≠ ""

theorem isBlankText_eq_false_iff : Text.isBlankText s = false ↔ Named s := by
  simp [Text.isBlankText, Named]

theorem isBlankText_iff : Text.isBlankText s = true ↔ ¬ Named s := by
  rw [← isBlankText_eq_false_iff, Bool.not_eq_false]

theorem ofString_eq_iff {s' : String} :
    TypeName.ofString s = TypeName.ofString s' ↔ Text.trim s = Text.trim s' := by
  simp [TypeName.ofString]

theorem blank?_eq_none_iff : blank? key s = none ↔ Named s := by
  rw [blank?, ← isBlankText_eq_false_iff]
  cases Text.isBlankText s <;> simp

/-! ### The parts of a manifest -/

/-- A manifest in which names name something, types are told apart, and every implementation is a
declared type. -/
structure Consistent (m : Manifest) : Prop where
  root : Named m.family.root
  types : ∀ t ∈ m.types, Named t.name ∧ ∀ s ∈ t.supertypes, Named s
  types_nodup : (m.types.map fun t => Text.trim t.name).Nodup
  implementations : ∀ i ∈ m.implementations, Named i.type ∧ Named i.implementation ∧
    ∃ t ∈ m.types, Text.trim t.name = Text.trim i.implementation
  views : ∀ v ∈ m.views, Named v.type ∧ Named v.view
  factories : ∀ f ∈ m.factories, Named f.type

/-- The types have no flaw when each names things and none is among those before it. -/
theorem typesFlaw?_eq_none_iff {declared : List String} {ts : List TypeItem} :
    typesFlaw? declared ts = none ↔ (∀ t ∈ ts, Named t.name ∧ ∀ s ∈ t.supertypes, Named s) ∧
      (ts.map fun t => Text.trim t.name).Nodup ∧ ∀ t ∈ ts, Text.trim t.name ∉ declared := by
  induction ts generalizing declared with
  | nil => simp [typesFlaw?]
  | cons t ts ih =>
    rw [typesFlaw?]
    by_cases hname : Named t.name
    · by_cases hnew : Text.trim t.name ∈ declared
      · simp [isBlankText_iff, hname, hnew]
      · by_cases hsup : ∀ s ∈ t.supertypes, Named s
        · have hblank : t.supertypes.any Text.isBlankText = false := by
            simpa [isBlankText_eq_false_iff] using hsup
          simp only [isBlankText_iff, hname, hnew, hblank, not_true_eq_false, Bool.false_eq_true,
            if_false]
          rw [ih, List.forall_mem_cons, List.forall_mem_cons, List.map_cons, List.nodup_cons]
          simp only [List.mem_cons, not_or]
          -- that no later type has this one's name is said of the names seen, or of the list
          constructor
          · rintro ⟨htypes, hnodup, hfresh⟩
            have hfirst : Text.trim t.name ∉ ts.map fun t => Text.trim t.name := by
              intro hmem
              obtain ⟨u, hu, heq⟩ := List.mem_map.1 hmem
              exact (hfresh u hu).1 heq
            exact ⟨⟨⟨hname, hsup⟩, htypes⟩, ⟨hfirst, hnodup⟩, hnew, fun u hu => (hfresh u hu).2⟩
          · rintro ⟨⟨_, htypes⟩, ⟨hfirst, hnodup⟩, _, hfresh⟩
            refine ⟨htypes, hnodup, fun u hu => ⟨fun heq => hfirst ?_, hfresh u hu⟩⟩
            exact List.mem_map.2 ⟨u, hu, heq⟩
        · have hblank : t.supertypes.any Text.isBlankText = true := by
            simpa [isBlankText_iff] using hsup
          simp [isBlankText_iff, hname, hnew, hblank, hsup]
    · simp [isBlankText_iff, hname]

theorem typeItem?_isSome_iff {name : String} :
    (m.typeItem? name).isSome ↔ ∃ t ∈ m.types, Text.trim t.name = Text.trim name := by
  simp [typeItem?]

theorem implementationFlaw?_eq_none_iff : m.implementationFlaw? i = none ↔
    Named i.type ∧ Named i.implementation ∧
      ∃ t ∈ m.types, Text.trim t.name = Text.trim i.implementation := by
  rw [implementationFlaw?, Option.or_eq_none_iff, Option.or_eq_none_iff, blank?_eq_none_iff,
    blank?_eq_none_iff, ← typeItem?_isSome_iff]
  cases m.typeItem? i.implementation <;> simp

theorem viewFlaw?_eq_none_iff : viewFlaw? v = none ↔ Named v.type ∧ Named v.view := by
  rw [viewFlaw?, Option.or_eq_none_iff, blank?_eq_none_iff, blank?_eq_none_iff]

theorem factoryFlaw?_eq_none_iff : factoryFlaw? f = none ↔ Named f.type :=
  blank?_eq_none_iff

theorem flaw?_eq_none_iff : m.flaw? = none ↔ m.Consistent := by
  have root : (if Text.isBlankText m.family.root then some Flaw.emptyRoot else none) = none ↔
      Named m.family.root := by
    rw [← isBlankText_eq_false_iff]
    cases Text.isBlankText m.family.root <;> simp
  simp only [flaw?, Option.or_eq_none_iff, root, typesFlaw?_eq_none_iff, List.findSome?_eq_none_iff,
    implementationFlaw?_eq_none_iff, viewFlaw?_eq_none_iff, factoryFlaw?_eq_none_iff,
    List.not_mem_nil, not_false_eq_true, implies_true, and_true]
  constructor
  · rintro ⟨hroot, ⟨htypes, hnodup⟩, himplementations, hviews, hfactories⟩
    exact ⟨hroot, htypes, hnodup, himplementations, hviews, hfactories⟩
  · intro h
    exact ⟨h.root, ⟨h.types, h.types_nodup⟩, h.implementations, h.views, h.factories⟩

/-- A manifest is accepted exactly when it is consistent. -/
theorem validate_eq_ok_iff : m.validate = .ok () ↔ m.Consistent := by
  rw [← flaw?_eq_none_iff, validate]
  cases m.flaw? <;> simp

/-! ### Look-up -/

namespace Consistent

/-- Of the types of a consistent manifest, the one of a name is found. -/
theorem typeItem?_eq_some_iff (h : m.Consistent) {name : String} :
    m.typeItem? name = some t ↔
      t ∈ m.types ∧ TypeName.ofString t.name = TypeName.ofString name := by
  rw [ofString_eq_iff]
  exact Keyed.find?_eq_some_iff h.types_nodup

theorem exists_typeItem? (h : m.Consistent) (hi : i ∈ m.implementations) :
    ∃ t, m.typeItem? i.implementation = some t := by
  obtain ⟨t, ht, hname⟩ := (h.implementations i hi).2.2
  exact ⟨t, h.typeItem?_eq_some_iff.2 ⟨ht, ofString_eq_iff.2 hname⟩⟩

end Consistent

end TypeFamily.Manifest
