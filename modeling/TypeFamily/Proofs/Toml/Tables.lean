import Mathlib.Data.List.Nodup
import TypeFamily.Proofs.Toml.Lines

/-!
The tables that the sections of a written document make. A key that is new comes after the others,
so where no key is given twice, a table holds what its section gives, in that order, and the tables
of one array come in the order of their headers.
-/

namespace TypeFamily

/-! ### Entries -/

namespace Entries

variable {es es' : Entries} {key : String} {v old : Value}

theorem get?_eq_none_iff : es.get? key = none ↔ key ∉ es.map Prod.fst := by
  rw [get?, List.lookup_eq_none_iff]
  constructor
  · intro h hmem
    obtain ⟨kv, hkv, rfl⟩ := List.mem_map.1 hmem
    simpa using h kv hkv
  · intro h kv hkv
    have hne : key ≠ kv.1 := by
      rintro rfl
      exact h (List.mem_map_of_mem hkv)
    simpa using hne

/-- Where no key comes twice, an entry is the one of its key. -/
theorem get?_eq_some_of_mem (hnodup : (es.map Prod.fst).Nodup) (hmem : (key, v) ∈ es) :
    es.get? key = some v := by
  induction es with
  | nil => cases hmem
  | cons kv es ih =>
    obtain ⟨hfirst, hnodup⟩ := List.nodup_cons.1 hnodup
    rcases List.mem_cons.1 hmem with rfl | hmem
    · exact List.lookup_cons_self
    · have hkey : key ∈ es.map Prod.fst := List.mem_map.2 ⟨(key, v), hmem, rfl⟩
      have hne : key ≠ kv.1 := by
        rintro rfl
        exact hfirst hkey
      rw [get?, List.lookup_cons, beq_eq_false_iff_ne.2 hne]
      exact ih hnodup hmem

theorem get?_append (h : key ∉ es.map Prod.fst) (v : Value) :
    (es ++ [(key, v)]).get? key = some v := by
  rw [get?, List.lookup_append, ← get?, get?_eq_none_iff.2 h, Option.none_or]
  exact List.lookup_cons_self

theorem put_append (h : key ∉ es.map Prod.fst) : (es ++ es').put key v = es ++ es'.put key v := by
  induction es with
  | nil => rfl
  | cons kv es ih =>
    obtain ⟨hne, h⟩ := not_or.1 (List.mem_cons.not.1 h)
    rw [List.cons_append, put, if_neg (Ne.symm hne), ih h]
    rfl

theorem put_of_not_mem (h : key ∉ es.map Prod.fst) : es.put key v = es ++ [(key, v)] := by
  have hput : (es ++ []).put key v = es ++ put [] key v := put_append h
  rwa [List.append_nil] at hput

end Entries

namespace Toml

/-! ### Sections -/

theorem sections_entryLines (items : List (List String × Value)) (ls : List Line) :
    sections (entryLines items ++ ls) = (items ++ (sections ls).1, (sections ls).2) := by
  induction items with
  | nil => rfl
  | cons item items ih =>
    have hcons : entryLines (item :: items) ++ ls =
        .entry item.1 item.2 :: (entryLines items ++ ls) := rfl
    rw [hcons, sections, ih]
    rfl

theorem sections_flatMap_lines (ss : List Section) :
    sections (ss.flatMap Section.lines) = ([], ss) := by
  induction ss with
  | nil => rfl
  | cons s ss ih =>
    rw [List.flatMap_cons, Section.lines, List.cons_append, sections, sections_entryLines, ih,
      List.append_nil]

/-- The lines of a document give back its sections. -/
theorem sections_document (top : List (List String × Value)) (ss : List Section) :
    sections (entryLines top ++ ss.flatMap Section.lines) = (top, ss) := by
  rw [sections_entryLines, sections_flatMap_lines, List.append_nil]

/-! ### Tables -/

variable {root es : Entries} {name key : String} {v : Value} {fields : Fields}

/-- Fields as the entries of a table. -/
def entries (fields : Fields) : Entries :=
  fields.map fun (key, f) => (key, f.value)

/-- A record is a table with a header of its own. -/
def record (fields : Fields) : Value :=
  .table .header (entries fields)

theorem map_fst_entries (fields : Fields) :
    (entries fields).map Prod.fst = fields.map Prod.fst := by
  rw [entries, List.map_map]
  rfl

theorem addEntry_single (h : key ∉ es.map Prod.fst) :
    addEntry .header es [key] v = some (es ++ [(key, v)]) := by
  show addNew key v es = _
  rw [addNew, Entries.get?_eq_none_iff.2 h]

theorem addEntries_append (h : (es.map Prod.fst ++ fields.map Prod.fst).Nodup) :
    addEntries .header es (items fields) = some (es ++ entries fields) := by
  induction fields generalizing es with
  | nil => exact congrArg some (List.append_nil es).symm
  | cons kf fields ih =>
    have hnew : kf.1 ∉ es.map Prod.fst := by
      intro hmem
      exact (List.nodup_append.1 h).2.2 _ hmem _ List.mem_cons_self rfl
    have hnext : ((es ++ [(kf.1, kf.2.value)]).map Prod.fst ++ fields.map Prod.fst).Nodup := by
      simpa using h
    show (addEntry .header es [kf.1] kf.2.value).bind
      (fun es => addEntries .header es (items fields)) = _
    rw [addEntry_single hnew, Option.bind_some, ih hnext, List.append_assoc]
    rfl

/-- Fields with keys of their own fill a table. -/
theorem addEntries_items (h : (fields.map Prod.fst).Nodup) :
    addEntries .header [] (items fields) = some (entries fields) :=
  addEntries_append h

/-- A header that comes for the first time adds a table at the end. -/
theorem addSection_table (hname : name ∉ root.map Prod.fst) (h : (fields.map Prod.fst).Nodup) :
    addSection root ⟨.table [name], items fields⟩ =
      some (root ++ [(name, record fields)]) := by
  rw [← Entries.put_of_not_mem hname]
  simp only [addSection, List.getLast?_singleton, Option.bind_some, List.dropLast_singleton,
    changeAt, Entries.get?_eq_none_iff.2 hname, addEntries_items h, Option.map_some, record]

/-! ### Arrays of tables -/

variable {vs : List Value} {rs : List Fields}

/-- Records under one name, each with the header of an array. -/
def recordSections (name : String) (rs : List Fields) : List Section :=
  rs.map fun fields => ⟨.tables [name], items fields⟩

/-- The entry that records under one name make, where there are any. -/
def recordEntry (name : String) (rs : List Fields) : Entries :=
  if rs.isEmpty then [] else [(name, .tables (rs.map record))]

theorem addSection_tables (hname : name ∉ root.map Prod.fst) (h : (fields.map Prod.fst).Nodup) :
    addSection root ⟨.tables [name], items fields⟩ =
      some (root ++ [(name, .tables [record fields])]) := by
  rw [← Entries.put_of_not_mem hname]
  simp only [addSection, List.getLast?_singleton, Option.bind_some, List.dropLast_singleton,
    changeAt, Entries.get?_eq_none_iff.2 hname, addEntries_items h, Option.map_some, record]

theorem addSection_more (hname : name ∉ root.map Prod.fst) (h : (fields.map Prod.fst).Nodup) :
    addSection (root ++ [(name, .tables vs)]) ⟨.tables [name], items fields⟩ =
      some (root ++ [(name, .tables (vs ++ [record fields]))]) := by
  have hput : (root ++ [(name, Value.tables vs)]).put name (.tables (vs ++ [record fields])) =
      root ++ [(name, .tables (vs ++ [record fields]))] := by
    rw [Entries.put_append hname, Entries.put, if_pos rfl]
  rw [← hput]
  simp only [addSection, List.getLast?_singleton, Option.bind_some, List.dropLast_singleton,
    changeAt, Entries.get?_append hname, addEntries_items h, Option.map_some, record]

theorem foldlM_recordSections_more (hname : name ∉ root.map Prod.fst)
    (hrs : ∀ fields ∈ rs, (fields.map Prod.fst).Nodup) :
    (recordSections name rs).foldlM addSection (root ++ [(name, .tables vs)]) =
      some (root ++ [(name, .tables (vs ++ rs.map record))]) := by
  induction rs generalizing vs with
  | nil =>
    rw [List.map_nil, List.append_nil]
    rfl
  | cons fields rs ih =>
    obtain ⟨hfields, hrs⟩ := List.forall_mem_cons.1 hrs
    show (addSection _ ⟨.tables [name], items fields⟩).bind _ = _
    rw [addSection_more hname hfields, Option.bind_some]
    show (recordSections name rs).foldlM addSection _ = _
    rw [ih hrs, List.append_assoc]
    rfl

/-- All records of one name make one array, in their order. -/
theorem foldlM_recordSections (hname : rs ≠ [] → name ∉ root.map Prod.fst)
    (hrs : ∀ fields ∈ rs, (fields.map Prod.fst).Nodup) :
    (recordSections name rs).foldlM addSection root = some (root ++ recordEntry name rs) := by
  cases rs with
  | nil => exact congrArg some (List.append_nil root).symm
  | cons fields rs =>
    have hname := hname (List.cons_ne_nil fields rs)
    obtain ⟨hfields, hrs⟩ := List.forall_mem_cons.1 hrs
    show (addSection _ ⟨.tables [name], items fields⟩).bind _ = _
    rw [addSection_tables hname hfields, Option.bind_some]
    show (recordSections name rs).foldlM addSection _ = _
    rw [foldlM_recordSections_more hname hrs]
    rfl

end Toml

end TypeFamily
