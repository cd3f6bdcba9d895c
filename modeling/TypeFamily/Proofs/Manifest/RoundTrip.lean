import TypeFamily.Manifest.Load
import TypeFamily.Manifest.Render
import TypeFamily.Proofs.Toml.Outline

/-!
A manifest that is written and read back is the manifest it was, in every field: texts whatever
characters they hold, lists of any length, and what is left out of the document because there is
nothing to say or because it is the default.
-/

namespace TypeFamily

open Toml

variable {m m' : Manifest}

/-! ### Fields of a record -/

section Fields

variable {α β : Type} {k key : String} {f : Field} {fields : Fields}
  {read? : Value → Option α} {default : α}

@[simp] theorem fields?_record (names : List String) (fields : Fields) :
    Encoding.toml.fields? names (record fields) = some (entries fields) :=
  rfl

theorem get?_entries_cons : (entries ((k, f) :: fields)).get? key =
    if key = k then some f.value else (entries fields).get? key := by
  rw [Entries.get?, entries, List.map_cons, List.lookup_cons]
  by_cases h : key = k
  · simp [h]
  · rw [if_neg h, beq_eq_false_iff_ne.2 h]
    rfl

@[simp] theorem required?_entries_cons :
    (entries ((k, f) :: fields)).required? key read? =
      if key = k then read? f.value else (entries fields).required? key read? := by
  rw [Entries.required?, get?_entries_cons]
  split <;> rfl

@[simp] theorem optional?_entries_cons :
    (entries ((k, f) :: fields)).optional? key read? default =
      if key = k then read? f.value else (entries fields).optional? key read? default := by
  rw [Entries.optional?, get?_entries_cons]
  by_cases h : key = k
  · rw [if_pos h, if_pos h]
  · rw [if_neg h, if_neg h, Entries.optional?]

@[simp] theorem optional?_entries_nil : (entries []).optional? key read? default = some default :=
  rfl

@[simp] theorem text?_value (s : String) : Value.text? (Field.text s).value = some s :=
  rfl

@[simp] theorem boolean?_value (b : Bool) : Value.boolean? (Field.flag b).value = some b :=
  rfl

@[simp] theorem choice?_value (s : String) : Encoding.toml.choice? (Field.text s).value = some s :=
  rfl

theorem mapM_map {write : α → β} {read? : β → Option α} (h : ∀ x, read? (write x) = some x)
    (xs : List α) : (xs.map write).mapM read? = some xs := by
  induction xs with
  | nil => rfl
  | cons x xs ih =>
    rw [List.map_cons, List.mapM_cons, h, ih]
    rfl

@[simp] theorem list?_value (ss : List String) :
    Value.list? Value.text? (Field.texts ss).value = some ss := by
  have htext : ∀ s, Value.text? (Value.text s) = some s := fun _ => rfl
  exact mapM_map htext ss

end Fields

namespace Manifest

/-! ### Records -/

theorem Family.ofValue?_record (f : Family) :
    Family.ofValue? .toml (record f.fields) = some f := by
  simp [Family.ofValue?, Family.fields, ValidationPolicy.ofKeyword?_keyword]

/-- A type without supertypes says nothing of them, and has none when it is read. -/
theorem TypeItem.ofValue?_record (t : TypeItem) :
    TypeItem.ofValue? .toml (record t.fields) = some t := by
  obtain ⟨name, supertypes, kind, isPublic, managed, constructible⟩ := t
  cases supertypes with
  | nil => simp [TypeItem.ofValue?, TypeItem.fields, TypeKind.ofKeyword?_keyword]
  | cons s ss => simp [TypeItem.ofValue?, TypeItem.fields, TypeKind.ofKeyword?_keyword]

/-- A source is read where there is one, be it empty. -/
@[simp] theorem optional?_sourceFields (source : Option String) :
    (entries (sourceFields source)).optional? "source" Value.optionalText? none = some source := by
  cases source <;> rfl

theorem ImplementationItem.ofValue?_record (i : ImplementationItem) :
    ImplementationItem.ofValue? .toml (record i.fields) = some i := by
  simp [ImplementationItem.ofValue?, ImplementationItem.fields]

theorem ViewItem.ofValue?_record (v : ViewItem) :
    ViewItem.ofValue? .toml (record v.fields) = some v := by
  simp [ViewItem.ofValue?, ViewItem.fields]

theorem FactoryItem.ofValue?_record (f : FactoryItem) :
    FactoryItem.ofValue? .toml (record f.fields) = some f := by
  simp [FactoryItem.ofValue?, FactoryItem.fields]

/-! ### The document -/

/-- A manifest as a table and lists of records. -/
def outline (m : Manifest) : Outline where
  name := "family"
  table := m.family.fields
  lists :=
    [("types", m.types.map TypeItem.fields),
      ("implementations", m.implementations.map ImplementationItem.fields),
      ("views", m.views.map ViewItem.fields), ("factories", m.factories.map FactoryItem.fields)]

theorem blocks_eq (m : Manifest) : m.blocks = m.outline.blocks := by
  simp [blocks, Outline.blocks, topFields, emptyField, Outline.emptyFields, outline,
    Function.comp_def]

theorem wellKeyed_of_sublist {fields : Fields} {names : List String}
    (hnames : names.Nodup ∧ ∀ n ∈ names, Bare n) (hsub : (fields.map Prod.fst).Sublist names) :
    WellKeyed fields :=
  ⟨hsub.nodup hnames.1, fun k hk => hnames.2 k (hsub.subset hk)⟩

theorem map_fst_sourceFields_sublist (source : Option String) :
    ((sourceFields source).map Prod.fst).Sublist ["source"] := by
  cases source with
  | none => exact List.nil_sublist _
  | some s => exact List.Sublist.refl _

theorem TypeItem.wellKeyed_fields (t : TypeItem) : WellKeyed t.fields := by
  have hnames : ["name", "extends", "kind", "public", "managed", "constructible"].Nodup ∧
      ∀ n ∈ ["name", "extends", "kind", "public", "managed", "constructible"], Bare n := by
    decide
  refine wellKeyed_of_sublist hnames ?_
  rw [TypeItem.fields]
  split <;> simp

theorem ImplementationItem.wellKeyed_fields (i : ImplementationItem) : WellKeyed i.fields := by
  have hnames : ["type", "implementation", "source"].Nodup ∧
      ∀ n ∈ ["type", "implementation", "source"], Bare n := by
    decide
  refine wellKeyed_of_sublist hnames ?_
  exact ((map_fst_sourceFields_sublist i.source).cons_cons _).cons_cons _

theorem ViewItem.wellKeyed_fields (v : ViewItem) : WellKeyed v.fields := by
  have hnames : ["type", "view", "source"].Nodup ∧
      ∀ n ∈ ["type", "view", "source"], Bare n := by
    decide
  refine wellKeyed_of_sublist hnames ?_
  exact ((map_fst_sourceFields_sublist v.source).cons_cons _).cons_cons _

theorem FactoryItem.wellKeyed_fields (f : FactoryItem) : WellKeyed f.fields := by
  have hnames : ["type", "source"].Nodup ∧ ∀ n ∈ ["type", "source"], Bare n := by
    decide
  exact wellKeyed_of_sublist hnames ((map_fst_sourceFields_sublist f.source).cons_cons _)

theorem wellFormed_outline (m : Manifest) : m.outline.WellFormed where
  nodup := by
    show ["family", "types", "implementations", "views", "factories"].Nodup
    decide
  bare := by
    show ∀ n ∈ ["family", "types", "implementations", "views", "factories"], Bare n
    decide
  table := by
    show ["display_name", "root", "validation"].Nodup ∧
      ∀ k ∈ ["display_name", "root", "validation"], Bare k
    decide
  lists := by
    simp only [outline, List.forall_mem_cons, List.forall_mem_map]
    refine ⟨?_, ?_, ?_, ?_, ?_⟩
    · exact fun t _ => t.wellKeyed_fields
    · exact fun i _ => i.wellKeyed_fields
    · exact fun v _ => v.wellKeyed_fields
    · exact fun f _ => f.wellKeyed_fields
    · simp

section Lists

variable {α : Type} {fields : α → Fields} {read? : Value → Option α}

theorem list?_listValue (hread : ∀ x, read? (record (fields x)) = some x) (xs : List α) :
    Value.list? read? (Outline.listValue (xs.map fields)) = some xs := by
  rw [Outline.listValue]
  cases xs with
  | nil => rfl
  | cons x xs =>
    show (((x :: xs).map fields).map record).mapM read? = some (x :: xs)
    rw [List.map_map]
    exact mapM_map hread (x :: xs)

theorem optional?_outline (hread : ∀ x, read? (record (fields x)) = some x) {name : String}
    {xs : List α} (hl : (name, xs.map fields) ∈ m.outline.lists) :
    m.outline.entries.optional? name (Value.list? read?) [] = some xs := by
  rw [Entries.optional?, m.wellFormed_outline.get?_list hl]
  exact list?_listValue hread xs

end Lists

/-- A manifest is read off the table and the lists that it is written as. -/
theorem ofValue?_outline (m : Manifest) :
    ofValue? .toml (.table .header m.outline.entries) = some m := by
  have hfamily : m.outline.entries.required? "family" (Family.ofValue? .toml) = some m.family := by
    have hname : m.outline.entries.get? "family" = some (record m.family.fields) :=
      m.wellFormed_outline.get?_name
    rw [Entries.required?, hname, Option.bind_some, Family.ofValue?_record]
  have htypes : m.outline.entries.optional? "types" (Value.list? (TypeItem.ofValue? .toml)) [] =
      some m.types :=
    optional?_outline TypeItem.ofValue?_record (by simp [outline])
  have himplementations : m.outline.entries.optional? "implementations"
      (Value.list? (ImplementationItem.ofValue? .toml)) [] = some m.implementations :=
    optional?_outline ImplementationItem.ofValue?_record (by simp [outline])
  have hviews : m.outline.entries.optional? "views" (Value.list? (ViewItem.ofValue? .toml)) [] =
      some m.views :=
    optional?_outline ViewItem.ofValue?_record (by simp [outline])
  have hfactories : m.outline.entries.optional? "factories"
      (Value.list? (FactoryItem.ofValue? .toml)) [] = some m.factories :=
    optional?_outline FactoryItem.ofValue?_record (by simp [outline])
  simp only [ofValue?, Encoding.fields?, hfamily, htypes, himplementations, hviews, hfactories,
    Option.bind_eq_bind, Option.bind_some, Option.pure_def]

/-- Whatever is in a manifest, its document is read as that manifest. -/
theorem parse_render (m : Manifest) :
    ((Toml.parse m.render).bind fun es => ofValue? .toml (.table .header es)) = some m := by
  rw [render, blocks_eq, m.wellFormed_outline.parse_eq, Option.bind_some, ofValue?_outline]

/-- A written manifest is refused only for a flaw of the manifest itself. -/
theorem ofToml_render_eq_checked (m : Manifest) : ofToml m.render = m.checked := by
  rw [ofToml, parse_render]

/-- CORRECT: an accepted manifest, written and read back, is the same in every field. -/
theorem ofToml_render (h : m.validate = .ok ()) : ofToml m.render = .ok m := by
  rw [ofToml_render_eq_checked, checked, h]

/-- Texts for each of the forms, with quotes at their ends, a line feed at the front and control
characters; lists with nothing, one item and several in them; a source that is absent and one that
is empty. -/
def quotedManifest : Manifest where
  family := { displayName := "\nit's a \"family\"\"", root := "Shape", validation := .aggregate }
  types :=
    [{ name := "it's C:\\''", supertypes := ["a \"b\"", "\t\x01", "\"\"\"\n\r'''"],
        isPublic := true },
      { name := "Ring\ttwo", supertypes := ["\"\"\""], kind := .concrete, constructible := false }]
  implementations := [{ type := "''' \"\"\"", implementation := " Ring\ttwo ", source := some "" }]
  factories := [{ type := "\"" }]

theorem ofToml_render_quoted : quotedManifest.validate = .ok () ∧
    ofToml quotedManifest.render = .ok quotedManifest := by
  have valid : quotedManifest.validate = .ok () := by rfl
  exact ⟨valid, ofToml_render valid⟩

end Manifest

end TypeFamily
