import TypeFamily.Proofs.Toml.Tables

/-!
Documents made of one table and several lists of records. A list with nothing in it is a key at the
top, and any other has one block for each record. Where names and keys are told apart, such a
document is read as a table in which each list is found under its name, empty or not.
-/

namespace TypeFamily.Toml

/-- A table with its name, and lists of records with theirs. -/
structure Outline where
  name : String
  table : Fields
  lists : List (String × List Fields)

/-- Keys that stand without quotes, and none twice. -/
def WellKeyed (fields : Fields) : Prop :=
  (fields.map Prod.fst).Nodup ∧ ∀ k ∈ fields.map Prod.fst, Bare k

namespace Outline

variable {o : Outline} {name : String} {rs : List Fields}

/-- The keys at the top: lists with nothing in them. -/
def emptyFields (o : Outline) : Fields :=
  o.lists.flatMap fun l => if l.2.isEmpty then [(l.1, .texts [])] else []

/-- The blocks of a document. -/
def blocks (o : Outline) : List Block :=
  (if o.emptyFields.isEmpty then [] else [⟨[], o.emptyFields⟩]) ++
    tableBlock o.name o.table :: o.lists.flatMap fun l => l.2.map (itemBlock l.1)

/-- The sections of a document. -/
def sections (o : Outline) : List Section :=
  ⟨.table [o.name], items o.table⟩ :: o.lists.flatMap fun l => recordSections l.1 l.2

/-- The entries that a document is read as. -/
def entries (o : Outline) : Entries :=
  Toml.entries o.emptyFields ++ (o.name, record o.table) ::
    o.lists.flatMap fun l => recordEntry l.1 l.2

/-- A list of records as a value. -/
def listValue (rs : List Fields) : Value :=
  if rs.isEmpty then .array [] else .tables (rs.map record)

/-- Names and keys stand without quotes and are told apart. -/
structure WellFormed (o : Outline) : Prop where
  nodup : (o.name :: o.lists.map Prod.fst).Nodup
  bare : ∀ n ∈ o.name :: o.lists.map Prod.fst, Bare n
  table : WellKeyed o.table
  lists : ∀ l ∈ o.lists, ∀ fields ∈ l.2, WellKeyed fields

/-! ### Names -/

theorem map_fst_emptyFields_sublist (o : Outline) :
    (o.emptyFields.map Prod.fst).Sublist (o.lists.map Prod.fst) := by
  unfold emptyFields
  induction o.lists with
  | nil => exact List.Sublist.slnil
  | cons l lists ih =>
    rw [List.flatMap_cons, List.map_append, List.map_cons]
    split
    · exact ih.cons_cons l.1
    · exact ih.cons l.1

theorem map_fst_recordEntries_sublist (lists : List (String × List Fields)) :
    ((lists.flatMap fun l => recordEntry l.1 l.2).map Prod.fst).Sublist (lists.map Prod.fst) := by
  induction lists with
  | nil => exact List.Sublist.slnil
  | cons l lists ih =>
    rw [List.flatMap_cons, List.map_append, List.map_cons, recordEntry]
    split
    · exact ih.cons l.1
    · exact ih.cons_cons l.1

theorem mem_of_mem_emptyFields (h : name ∈ o.emptyFields.map Prod.fst) :
    (name, []) ∈ o.lists := by
  obtain ⟨kf, hkf, rfl⟩ := List.mem_map.1 h
  obtain ⟨l, hl, hmem⟩ := List.mem_flatMap.1 hkf
  split at hmem
  · next hempty =>
    rw [List.mem_singleton.1 hmem, ← List.isEmpty_iff.1 hempty]
    exact hl
  · cases hmem

theorem mem_of_mem_recordEntries
    (h : name ∈ (o.lists.flatMap fun l => recordEntry l.1 l.2).map Prod.fst) :
    ∃ rs, (name, rs) ∈ o.lists ∧ rs ≠ [] := by
  obtain ⟨kv, hkv, rfl⟩ := List.mem_map.1 h
  obtain ⟨l, hl, hmem⟩ := List.mem_flatMap.1 hkv
  rw [recordEntry] at hmem
  split at hmem
  · cases hmem
  · next hfull =>
    rw [List.mem_singleton.1 hmem]
    exact ⟨l.2, hl, fun hnil => hfull (List.isEmpty_iff.2 hnil)⟩

namespace WellFormed

theorem name_not_mem (h : o.WellFormed) : o.name ∉ o.lists.map Prod.fst :=
  (List.nodup_cons.1 h.nodup).1

theorem lists_nodup (h : o.WellFormed) : (o.lists.map Prod.fst).Nodup :=
  (List.nodup_cons.1 h.nodup).2

theorem wellKeyed_emptyFields (h : o.WellFormed) : WellKeyed o.emptyFields := by
  have hsub := o.map_fst_emptyFields_sublist
  refine ⟨hsub.nodup h.lists_nodup, fun k hk => h.bare k ?_⟩
  exact List.mem_cons_of_mem _ (hsub.subset hk)

/-- A list with something in it is not among the keys at the top. -/
theorem not_mem_emptyFields (h : o.WellFormed) (hl : (name, rs) ∈ o.lists) (hrs : rs ≠ []) :
    name ∉ o.emptyFields.map Prod.fst := by
  intro hmem
  have heq := List.inj_on_of_nodup_map h.lists_nodup hl (mem_of_mem_emptyFields hmem) rfl
  exact hrs (Prod.mk.inj heq).2

theorem name_not_mem_emptyFields (h : o.WellFormed) : o.name ∉ o.emptyFields.map Prod.fst :=
  fun hmem => h.name_not_mem (o.map_fst_emptyFields_sublist.subset hmem)

/-- No key of the document is given twice. -/
theorem entries_nodup (h : o.WellFormed) : (o.entries.map Prod.fst).Nodup := by
  have hsub := map_fst_recordEntries_sublist o.lists
  rw [entries, List.map_append, List.map_cons, map_fst_entries, List.nodup_append]
  refine ⟨h.wellKeyed_emptyFields.1, ?_, ?_⟩
  · refine List.nodup_cons.2 ⟨fun hmem => h.name_not_mem (hsub.subset hmem), ?_⟩
    exact hsub.nodup h.lists_nodup
  · rintro k hk _ hmem rfl
    rcases List.mem_cons.1 hmem with rfl | hmem
    · exact h.name_not_mem_emptyFields hk
    · obtain ⟨rs, hl, hrs⟩ := mem_of_mem_recordEntries hmem
      exact h.not_mem_emptyFields hl hrs hk

/-! ### Lines -/

theorem says_recordBlocks {lists : List (String × List Fields)}
    (h : ∀ l ∈ lists, Bare l.1 ∧ ∀ fields ∈ l.2, WellKeyed fields) :
    List.Forall₂ (fun b ls => Says b.write ls) (lists.flatMap fun l => l.2.map (itemBlock l.1))
      ((lists.flatMap fun l => recordSections l.1 l.2).map Section.lines) := by
  induction lists with
  | nil => exact .nil
  | cons l lists ih =>
    obtain ⟨⟨hname, hfields⟩, h⟩ := List.forall_mem_cons.1 h
    rw [List.flatMap_cons, List.flatMap_cons, List.map_append]
    refine List.rel_append ?_ (ih h)
    rw [recordSections, List.map_map, List.forall₂_map_left_iff, List.forall₂_map_right_iff,
      List.forall₂_same]
    intro fields hmem
    exact says_itemBlock hname (hfields fields hmem).2

/-- A document says what is at its top, and then its sections. -/
theorem says_blocks (h : o.WellFormed) :
    Says (writeBlocks o.blocks)
      (entryLines (items o.emptyFields) ++ o.sections.flatMap Section.lines) := by
  have hrecords : ∀ l ∈ o.lists, Bare l.1 ∧ ∀ fields ∈ l.2, WellKeyed fields := by
    intro l hl
    exact ⟨h.bare l.1 (List.mem_cons_of_mem _ (List.mem_map_of_mem hl)), h.lists l hl⟩
  have hsections : List.Forall₂ (fun b ls => Says b.write ls)
      (tableBlock o.name o.table :: o.lists.flatMap fun l => l.2.map (itemBlock l.1))
      (o.sections.map Section.lines) :=
    .cons (says_tableBlock (h.bare o.name List.mem_cons_self) h.table.2)
      (says_recordBlocks hrecords)
  rw [List.flatMap_def, blocks]
  split
  · next hempty =>
    rw [List.isEmpty_iff.1 hempty]
    exact says_writeBlocks hsections
  · have htop : Says (Block.mk [] o.emptyFields).write (entryLines (items o.emptyFields)) :=
      says_fields h.wellKeyed_emptyFields.2
    exact says_writeBlocks (.cons htop hsections)

/-! ### Tables -/

theorem foldlM_lists {lists : List (String × List Fields)} {root : Entries}
    (hnodup : (lists.map Prod.fst).Nodup)
    (hnew : ∀ l ∈ lists, l.2 ≠ [] → l.1 ∉ root.map Prod.fst)
    (hfields : ∀ l ∈ lists, ∀ fields ∈ l.2, WellKeyed fields) :
    (lists.flatMap fun l => recordSections l.1 l.2).foldlM addSection root =
      some (root ++ lists.flatMap fun l => recordEntry l.1 l.2) := by
  induction lists generalizing root with
  | nil => exact congrArg some (List.append_nil root).symm
  | cons l lists ih =>
    obtain ⟨hfirst, hnodup⟩ := List.nodup_cons.1 hnodup
    obtain ⟨hl, hnew⟩ := List.forall_mem_cons.1 hnew
    obtain ⟨hrecords, hfields⟩ := List.forall_mem_cons.1 hfields
    have hnext : ∀ l' ∈ lists, l'.2 ≠ [] →
        l'.1 ∉ (root ++ recordEntry l.1 l.2).map Prod.fst := by
      intro l' hl' hfull hmem
      rw [List.map_append, List.mem_append] at hmem
      rcases hmem with hmem | hmem
      · exact hnew l' hl' hfull hmem
      · have heq : l'.1 = l.1 := by
          rw [recordEntry] at hmem
          split at hmem
          · cases hmem
          · exact List.mem_singleton.1 hmem
        exact hfirst (heq ▸ List.mem_map_of_mem hl')
    rw [List.flatMap_cons, List.flatMap_cons, List.foldlM_append,
      foldlM_recordSections hl fun fields hmem => (hrecords fields hmem).1]
    show (lists.flatMap fun l => recordSections l.1 l.2).foldlM addSection _ = _
    rw [ih hnodup hnext hfields, List.append_assoc]

theorem foldlM_sections (h : o.WellFormed) :
    o.sections.foldlM addSection (Toml.entries o.emptyFields) = some o.entries := by
  have hname : o.name ∉ (Toml.entries o.emptyFields).map Prod.fst := by
    rw [map_fst_entries]
    exact h.name_not_mem_emptyFields
  have hnew : ∀ l ∈ o.lists, l.2 ≠ [] →
      l.1 ∉ (Toml.entries o.emptyFields ++ [(o.name, record o.table)]).map Prod.fst := by
    intro l hl hfull hmem
    rw [List.map_append, map_fst_entries, List.mem_append] at hmem
    rcases hmem with hmem | hmem
    · exact h.not_mem_emptyFields hl hfull hmem
    · have heq : l.1 = o.name := List.mem_singleton.1 hmem
      exact h.name_not_mem (heq ▸ List.mem_map_of_mem hl)
  show (addSection _ ⟨.table [o.name], items o.table⟩).bind _ = _
  rw [addSection_table hname h.table.1, Option.bind_some]
  show (o.lists.flatMap fun l => recordSections l.1 l.2).foldlM addSection _ = _
  rw [foldlM_lists h.lists_nodup hnew h.lists, List.append_assoc]
  rfl

theorem assemble_eq (h : o.WellFormed) :
    assemble (entryLines (items o.emptyFields) ++ o.sections.flatMap Section.lines) =
      some o.entries := by
  rw [assemble, sections_document]
  show (addEntries .header [] (items o.emptyFields)).bind _ = _
  rw [addEntries_items h.wellKeyed_emptyFields.1]
  exact h.foldlM_sections

/-! ### The document -/

theorem head?_writeBlocks {c : Char} {w : List Char} {b : Block} {bs : List Block}
    (hwrite : b.write = c :: w) : (writeBlocks (b :: bs)).head? = some c := by
  cases bs with
  | nil =>
    rw [writeBlocks, hwrite]
    rfl
  | cons b' bs =>
    show (b.write ++ '\n' :: writeBlocks (b' :: bs)).head? = some c
    rw [hwrite]
    rfl

/-- A document begins with a key or a bracket, never with a byte order mark. -/
theorem head?_ne (h : o.WellFormed) : (writeBlocks o.blocks).head? ≠ some '\ufeff' := by
  have hkeys := h.wellKeyed_emptyFields.2
  intro hmark
  rw [blocks] at hmark
  cases htop : o.emptyFields with
  | nil =>
    rw [htop] at hmark
    have hwrite : ∃ w, (tableBlock o.name o.table).write = '[' :: w := ⟨_, rfl⟩
    obtain ⟨w, hwrite⟩ := hwrite
    cases (head?_writeBlocks hwrite).symm.trans hmark
  | cons kf fields =>
    rw [htop] at hkeys hmark
    obtain ⟨c, w, hkey, hc⟩ := (hkeys kf.1 List.mem_cons_self).exists_eq
    have hne : c ≠ '\ufeff' := ne_of_isBareKeyChar hc (by decide)
    have hwrite : ∃ w', (Block.mk [] (kf :: fields)).write = c :: w' := by
      simp [Block.write, fieldLine, hkey]
    obtain ⟨w', hwrite⟩ := hwrite
    exact hne (Option.some.inj ((head?_writeBlocks hwrite).symm.trans hmark))

/-- CORRECT: a document is read as the entries of its table and its lists. -/
theorem parse_eq (h : o.WellFormed) :
    parse (String.ofList (writeBlocks o.blocks)) = some o.entries := by
  rw [parse, String.toList_ofList]
  simp only [if_neg h.head?_ne]
  rw [h.says_blocks.lines_eq, Option.bind_some, h.assemble_eq]

theorem get?_name (h : o.WellFormed) : o.entries.get? o.name = some (record o.table) :=
  Entries.get?_eq_some_of_mem h.entries_nodup
    (List.mem_append_right _ List.mem_cons_self)

/-- Each list is found under its name, whether there is anything in it or not. -/
theorem get?_list (h : o.WellFormed) (hl : (name, rs) ∈ o.lists) :
    o.entries.get? name = some (listValue rs) := by
  refine Entries.get?_eq_some_of_mem h.entries_nodup ?_
  rw [entries, List.mem_append, List.mem_cons, listValue]
  split
  · next hempty =>
    refine .inl (List.mem_map.2 ⟨(name, .texts []), ?_, rfl⟩)
    refine List.mem_flatMap.2 ⟨(name, rs), hl, ?_⟩
    rw [if_pos hempty]
    exact List.mem_singleton_self _
  · next hfull =>
    refine .inr (.inr (List.mem_flatMap.2 ⟨(name, rs), hl, ?_⟩))
    rw [recordEntry, if_neg hfull]
    exact List.mem_singleton_self _

end WellFormed

end Outline

end TypeFamily.Toml
