import TypeFamily.Manifest.Build
import TypeFamily.Proofs.Manifest.Consistent
import TypeFamily.Proofs.Registry.Standing

/-!
What a manifest says about its types, who extends whom and who is declared, and the graph that comes
of it. The types can all be declared exactly if there is no cycle among them and none of them is the
root under another declaration; from then on the graph says what the manifest says.
-/

namespace TypeFamily

namespace TypeDecl

variable {d : TypeDecl} {s : TypeName} {names : List TypeName}

theorem mem_supertypes_foldl_extending :
    s ∈ (names.foldl extending d).supertypes ↔ s ∈ d.supertypes ∨ s ∈ names := by
  induction names generalizing d with
  | nil => simp
  | cons n names ih =>
    have hn : s ∈ (d.extending n).supertypes ↔ s ∈ d.supertypes ∨ s = n := by
      rw [extending]
      by_cases h : n ∈ d.supertypes
      · rw [if_pos h]
        exact ⟨.inl, fun hs => hs.elim id fun hs => hs ▸ h⟩
      · simp [h]
    rw [List.foldl_cons, ih, hn, List.mem_cons, or_assoc]

/-- Naming supertypes changes nothing else. -/
theorem foldl_extending_eq (d : TypeDecl) (names : List TypeName) :
    names.foldl extending d = { d with supertypes := (names.foldl extending d).supertypes } := by
  induction names generalizing d with
  | nil => rfl
  | cons n names ih =>
    rw [List.foldl_cons, ih]
    by_cases h : n ∈ d.supertypes <;> simp [extending, h]

end TypeDecl

namespace Manifest

variable {m : Manifest} {r : ManifestRegistry} {g : TypeGraph} {t : TypeItem} {d : TypeDecl}
  {a b n : TypeName}

/-! ### What a manifest says about its types -/

/-- The name of the root. -/
def root (m : Manifest) : TypeName :=
  .ofString m.family.root

/-- A type named `a` lists `b` among its supertypes. -/
def Extends (m : Manifest) (a b : TypeName) : Prop :=
  ∃ t ∈ m.types, TypeName.ofString t.name = a ∧ ∃ s ∈ t.supertypes, TypeName.ofString s = b

/-- `b` is `a` or one of its ancestors. -/
def Below (m : Manifest) : TypeName → TypeName → Prop :=
  Relation.ReflTransGen m.Extends

/-- The root and the types of a manifest are declared. -/
def Declares (m : Manifest) (n : TypeName) : Prop :=
  n = m.root ∨ ∃ t ∈ m.types, TypeName.ofString t.name = n

/-- Some ancestor of `n` is not declared. -/
def Open (m : Manifest) (n : TypeName) : Prop :=
  ∃ a, Relation.TransGen m.Extends n a ∧ ¬ m.Declares a

/-- The graph holds the root and the types of a manifest, each as it is declared there. -/
def DeclaredIn (m : Manifest) (g : TypeGraph) : Prop :=
  ∀ n d, g.find? n = some d ↔ d.name = n ∧ (d = { name := m.root } ∨ ∃ t ∈ m.types, t.toDecl = d)

/-! ### Declarations -/

theorem toDecl_name (t : TypeItem) : t.toDecl.name = .ofString t.name := by
  rw [TypeItem.toDecl, TypeDecl.ofStrings, TypeDecl.foldl_extending_eq]

theorem toDecl_kind (t : TypeItem) : t.toDecl.kind = t.kind := by
  rw [TypeItem.toDecl, TypeDecl.ofStrings, TypeDecl.foldl_extending_eq]

theorem toDecl_managed (t : TypeItem) : t.toDecl.managed = t.managed := by
  rw [TypeItem.toDecl, TypeDecl.ofStrings, TypeDecl.foldl_extending_eq]

theorem mem_toDecl_supertypes_iff :
    n ∈ t.toDecl.supertypes ↔ ∃ s ∈ t.supertypes, TypeName.ofString s = n := by
  rw [TypeItem.toDecl, TypeDecl.ofStrings, TypeDecl.mem_supertypes_foldl_extending]
  simp

/-- A type is declared as the root is exactly if it is an unmanaged interface without supertypes. -/
theorem toDecl_eq_root_iff : t.toDecl = { name := m.root } ↔
    TypeName.ofString t.name = m.root ∧ t.kind = .interface ∧ t.managed = false ∧
      t.supertypes = [] := by
  have hsup : t.toDecl.supertypes = [] ↔ t.supertypes = [] := by
    simp [List.eq_nil_iff_forall_not_mem, mem_toDecl_supertypes_iff]
  rw [← toDecl_name, ← toDecl_kind, ← toDecl_managed, ← hsup]
  constructor
  · intro h
    simp [h]
  · rintro ⟨hname, hkind, hmanaged, hsup⟩
    cases hd : t.toDecl
    simp_all

/-! ### The declared graph -/

namespace DeclaredIn

theorem find?_root (hg : m.DeclaredIn g) : g.find? m.root = some { name := m.root } :=
  (hg _ _).2 ⟨rfl, .inl rfl⟩

theorem find?_toDecl (hg : m.DeclaredIn g) (ht : t ∈ m.types) :
    g.find? t.toDecl.name = some t.toDecl :=
  (hg _ _).2 ⟨rfl, .inr ⟨t, ht, rfl⟩⟩

/-- Steps between declarations are steps between the types of the manifest. -/
theorem extends_eq (hg : m.DeclaredIn g) : g.Extends = m.Extends := by
  funext a b
  refine propext (TypeGraph.extends_iff.trans ⟨?_, ?_⟩)
  · rintro ⟨d, hd, hb⟩
    obtain ⟨rfl, rfl | ⟨t, ht, rfl⟩⟩ := (hg a d).1 hd
    · simp at hb
    · exact ⟨t, ht, (toDecl_name t).symm, mem_toDecl_supertypes_iff.1 hb⟩
  · rintro ⟨t, ht, rfl, hb⟩
    exact ⟨t.toDecl, toDecl_name t ▸ hg.find?_toDecl ht, mem_toDecl_supertypes_iff.2 hb⟩

theorem below_iff (hg : m.DeclaredIn g) : g.Below a b ↔ m.Below a b := by
  rw [TypeGraph.Below, hg.extends_eq, Below]

theorem acyclic_iff (hg : m.DeclaredIn g) :
    g.Acyclic ↔ ∀ n, ¬ Relation.TransGen m.Extends n n := by
  rw [TypeGraph.Acyclic]
  simp only [TypeGraph.StrictlyBelow, hg.extends_eq]

theorem contains_iff (hg : m.DeclaredIn g) : g.contains n ↔ m.Declares n := by
  rw [TypeGraph.contains_iff]
  constructor
  · rintro ⟨d, hd⟩
    obtain ⟨rfl, rfl | ⟨t, ht, rfl⟩⟩ := (hg n d).1 hd
    · exact .inl rfl
    · exact .inr ⟨t, ht, (toDecl_name t).symm⟩
  · rintro (rfl | ⟨t, ht, rfl⟩)
    · exact ⟨_, hg.find?_root⟩
    · exact ⟨t.toDecl, toDecl_name t ▸ hg.find?_toDecl ht⟩

/-- A type of the manifest is let in under `n` if it is below it or an ancestor is not declared. -/
theorem reaches_iff (hg : m.DeclaredIn g) (ht : t ∈ m.types) :
    g.reaches t.toDecl n ≠ .doesNotReach ↔
      m.Below (.ofString t.name) n ∨ m.Open (.ofString t.name) := by
  rw [Registry.reaches_ne_doesNotReach_iff (hg.find?_toDecl ht), hg.below_iff, toDecl_name, Open]
  simp only [TypeGraph.StrictlyBelow, hg.extends_eq, hg.contains_iff]

/-- A type with the root's name is declared as the root is. -/
theorem root_interface (hg : m.DeclaredIn g) (ht : t ∈ m.types)
    (hname : TypeName.ofString t.name = m.root) :
    t.kind = .interface ∧ t.managed = false ∧ t.supertypes = [] := by
  have hfound := hg.find?_toDecl ht
  rw [toDecl_name, hname, hg.find?_root] at hfound
  exact (toDecl_eq_root_iff.1 (Option.some.inj hfound).symm).2

end DeclaredIn

/-- Everything that a manifest declares, the root first. -/
def declaredGraph (m : Manifest) : TypeGraph :=
  ⟨{ name := m.root } :: m.types.map (·.toDecl)⟩

theorem Consistent.decls_nodup (h : m.Consistent) :
    ((m.types.map (·.toDecl)).map (·.name)).Nodup := by
  have hnodup := h.types_nodup
  rw [List.map_map]
  refine List.Nodup.of_map (·.text) ?_
  simpa [Function.comp_def, toDecl_name, TypeName.ofString] using hnodup

theorem declaredIn_declaredGraph (h : m.Consistent)
    (hroot : ∀ t ∈ m.types, TypeName.ofString t.name = m.root →
      t.kind = .interface ∧ t.managed = false ∧ t.supertypes = []) :
    m.DeclaredIn m.declaredGraph := by
  intro n d
  rw [declaredGraph, TypeGraph.find?, List.find?_cons]
  by_cases hn : m.root = n
  · subst hn
    simp only [decide_true, Option.some.injEq]
    constructor
    · rintro rfl
      exact ⟨rfl, .inl rfl⟩
    · rintro ⟨hname, rfl | ⟨t, ht, rfl⟩⟩
      · rfl
      · rw [toDecl_name] at hname
        exact (toDecl_eq_root_iff.2 ⟨hname, hroot t ht hname⟩).symm
  · simp only [hn, decide_false]
    rw [Keyed.find?_eq_some_iff h.decls_nodup, List.mem_map, and_comm]
    refine and_congr_right fun hname => (or_iff_right ?_).symm
    rintro rfl
    exact hn hname

/-! ### The declarations -/

open Registry

theorem wellFormed_of_applyAll {calls : List Call} (h : m.emptyRegistry.applyAll calls = .ok r) :
    r.WellFormed :=
  run_of_applyAll h ▸ (wellFormed_empty _ _).run calls

/-- Once every type is declared, and nothing else is, the graph is the one that the manifest
declares. -/
theorem declaredIn_of_applyAll {calls : List Call} (h : m.emptyRegistry.applyAll calls = .ok r)
    (hdecls : ∀ d, (∃ c ∈ calls, c.decl? = some d) ↔ ∃ t ∈ m.types, t.toDecl = d) :
    m.DeclaredIn r.graph := by
  intro n d
  rw [TypeGraph.find?, Keyed.find?_eq_some_iff (wellFormed_of_applyAll h).decls_nodup,
    (collects_of_applyAll h).decls, hdecls, and_comm]
  simp [emptyRegistry, empty, TypeGraph.rooted, root]

theorem exists_declareCalls_iff (d : TypeDecl) :
    (∃ c ∈ m.declareCalls, c.decl? = some d) ↔ ∃ t ∈ m.types, t.toDecl = d := by
  simp [declareCalls]

/-- All types can be declared exactly if there is no cycle and none contradicts the root. -/
theorem exists_applyAll_declareCalls_iff (h : m.Consistent) :
    (∃ r, m.emptyRegistry.applyAll m.declareCalls = .ok r) ↔
      (∀ n, ¬ Relation.TransGen m.Extends n n) ∧
        ∀ t ∈ m.types, TypeName.ofString t.name = m.root →
          t.kind = .interface ∧ t.managed = false ∧ t.supertypes = [] := by
  constructor
  · rintro ⟨r, hr⟩
    have hg : m.DeclaredIn r.graph := declaredIn_of_applyAll hr exists_declareCalls_iff
    exact ⟨hg.acyclic_iff.1 (wellFormed_of_applyAll hr).acyclic, fun t ht => hg.root_interface ht⟩
  · rintro ⟨hacyclic, hroot⟩
    -- every part of the graph that is to be declared in the end accepts what is still missing
    have hg := declaredIn_declaredGraph h hroot
    refine exists_applyAll (r := { m.emptyRegistry with graph := m.declaredGraph })
      (hg.acyclic_iff.2 hacyclic) ?_ ?_ rfl ?_ ?_
    · intro c hc
      obtain ⟨t, ht, rfl⟩ := List.mem_map.1 hc
      refine ⟨fun d hd => ?_, nofun, nofun⟩
      obtain rfl := Option.some.inj hd
      exact hg.find?_toDecl ht
    · intro n d hd
      rw [emptyRegistry, empty, TypeGraph.find?_rooted] at hd
      split at hd
      · obtain rfl := Option.some.inj hd
        subst n
        exact hg.find?_root
      · cases hd
    · simp [emptyRegistry, empty, declareCalls, Function.comp_def]
    · simp [emptyRegistry, empty, declareCalls, Function.comp_def]

end Manifest

end TypeFamily
