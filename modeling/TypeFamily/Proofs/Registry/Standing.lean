import TypeFamily.Proofs.Registry.Rearrange

/-!
Registrations over a finished graph. Where the declarations that calls make stand already, the graph
does not change under them, so what is asked of each can be read off the graph as it is; whether
they are accepted is then a matter of that and of no key coming twice.
-/

namespace TypeFamily.Registry

variable {α γ : Type} {s r : Registry α γ} {c : Call α γ} {calls : List (Call α γ)}
  {g g' : TypeGraph}

/-- What is asked of a call on a graph, apart from its key being new. -/
def Suits (g : TypeGraph) (root : TypeName) : Call α γ → Prop
  | .registerPublicType d => g.reaches d root ≠ .doesNotReach
  | .registerImplementation t _ i =>
    (g.reaches i.decl root ≠ .doesNotReach ∧ g.reaches i.decl t ≠ .doesNotReach) ∧
      i.decl.isConcrete ∧ i.hasConstructor
  | _ => True

/-- The declaration that a call makes was made before. -/
def Stands (g : TypeGraph) (c : Call α γ) : Prop :=
  ∀ d, c.decl? = some d → g.find? d.name = some d

theorem admits_iff : s.Admits c ↔ Suits s.graph s.root c ∧ s.Unregistered c := by
  cases c with
  | declareType d => exact ⟨fun _ => ⟨trivial, nofun, nofun⟩, fun _ => trivial⟩
  | registerPublicType d => exact ⟨fun h => ⟨h, nofun, nofun⟩, fun h => h.1⟩
  | registerFactory t source make =>
    refine ⟨fun h => ⟨trivial, fun e he => ?_, nofun⟩, fun h => h.2.factory _ rfl⟩
    exact Option.some.inj he ▸ h
  | registerImplementation t source i =>
    rw [Admits, defect?_eq_none_iff]
    refine ⟨fun h => ⟨h.1, nofun, fun e he => ?_⟩, fun h => ⟨h.1, h.2.implementation _ rfl⟩⟩
    exact Option.some.inj he ▸ h.2
  | registerInternalView t source view => exact ⟨fun _ => ⟨trivial, nofun, nofun⟩, fun _ => trivial⟩

theorem declared_iff_of_stands (h : Stands g c) : Declared g c.decl? g' ↔ g' = g := by
  cases hd : c.decl? with
  | none => exact Iff.rfl
  | some d =>
    rw [Declared, TypeGraph.declare_of_find?_eq_some (h d hd), if_pos rfl]
    exact ⟨fun h => (Except.ok.inj h).symm, fun h => h ▸ rfl⟩

theorem apply_eq_ok_iff_of_stands (h : Stands s.graph c) : s.apply c = .ok r ↔
    (Suits s.graph s.root c ∧ s.Unregistered c) ∧ r = s.adding c s.graph := by
  rw [apply_eq_ok_iff, admits_iff]
  simp only [declared_iff_of_stands h, exists_eq_left]

/-- The run: calls over a finished graph are all accepted if each suits the graph and no key comes
twice, and leave the graph as it was. -/
theorem exists_applyAll_iff_of_stands (hs : s.WellFormed)
    (hcalls : ∀ c ∈ calls, Stands s.graph c) :
    (∃ r, s.applyAll calls = .ok r) ↔ (∀ c ∈ calls, Suits s.graph s.root c) ∧
      ((s.factories ++ calls.filterMap Call.factory?).map (·.type)).Nodup ∧
      ((s.implementations ++ calls.filterMap Call.implementation?).map (·.type)).Nodup := by
  induction calls generalizing s with
  | nil => simp [applyAll_nil_eq_ok_iff, hs.factories_nodup, hs.implementations_nodup]
  | cons c calls ih =>
    obtain ⟨hc, hcalls⟩ := List.forall_mem_cons.1 hcalls
    simp only [applyAll_cons_eq_ok_iff, apply_eq_ok_iff_of_stands hc, append_filterMap_cons,
      List.forall_mem_cons]
    constructor
    · rintro ⟨r, s', ⟨⟨hsuits, hnew⟩, rfl⟩, hrest⟩
      have hs' : (s.adding c s.graph).WellFormed :=
        hs.apply ((apply_eq_ok_iff_of_stands hc).2 ⟨⟨hsuits, hnew⟩, rfl⟩)
      obtain ⟨hothers, hkeys⟩ := (ih hs' hcalls).1 ⟨r, hrest⟩
      exact ⟨⟨hsuits, hothers⟩, hkeys⟩
    · rintro ⟨⟨hsuits, hothers⟩, hfactories, himplementations⟩
      have hnew : s.Unregistered c := unregistered_of_nodup hfactories himplementations
      have hs' : (s.adding c s.graph).WellFormed :=
        hs.apply ((apply_eq_ok_iff_of_stands hc).2 ⟨⟨hsuits, hnew⟩, rfl⟩)
      obtain ⟨r, hrest⟩ := (ih hs' hcalls).2 ⟨hothers, hfactories, himplementations⟩
      exact ⟨r, _, ⟨⟨hsuits, hnew⟩, rfl⟩, hrest⟩

/-- A call whose declaration stands reaches what is above its type there, or it is left open. -/
theorem reaches_ne_doesNotReach_iff {d : TypeDecl} {t : TypeName} (hd : g.find? d.name = some d) :
    g.reaches d t ≠ .doesNotReach ↔
      g.Below d.name t ∨ ∃ a, g.StrictlyBelow d.name a ∧ ¬ g.contains a := by
  have above : ∀ a, g.Above d a ↔ g.StrictlyBelow d.name a := fun a => by
    rw [TypeGraph.strictlyBelow_iff, TypeGraph.supertypes_of_find? hd, TypeGraph.Above]
  rw [ne_eq, TypeGraph.reaches_eq_doesNotReach_iff, TypeGraph.below_iff]
  simp only [above, not_and_or, not_not, not_forall, exists_prop]

end TypeFamily.Registry
