import TypeFamily.Proofs.Registry.Rule

/-!
What resolution answers. A type that owns an implementation gets it; any other gets what the only
ancestor that offers one offers, and an error where none does or several do. Several are all told,
in the order of the walk, and nothing is chosen between them. So the order in which declarations
list supertypes shows in the order of the candidates and nowhere else.
-/

namespace TypeFamily

variable {α γ : Type}

/-- The declarations list the same supertypes, in whatever order and however often, and are the same
otherwise. -/
structure TypeDecl.Reorders (d d' : TypeDecl) : Prop where
  supertypes : ∀ s, s ∈ d'.supertypes ↔ s ∈ d.supertypes
  rest : d' = { d with supertypes := d'.supertypes }

namespace Registry

variable {r r' : Registry α γ} {t o : TypeName} {own : ImplementationEntry α}
  {cs cs' : List Resolution} {found : Resolution}

/-! ### The answer -/

theorem resolve_of_owns (hr : r.WellFormed) (h : r.Owns t own) :
    r.resolve t = .ok ⟨t, own.name⟩ := by
  rw [resolve_of_some ((implementation?_eq_some_iff hr).2 h), ImplementationEntry.resolution, h.2]

theorem nodup_candidates (r : Registry α γ) (t : TypeName) : (r.candidates t).Nodup :=
  (nodup_owners_candidates r t).of_map

/-- What an ambiguous answer lists: the ancestors that offer an implementation, in the order of the
walk, each once and with the implementation that it owns. -/
structure Lists (r : Registry α γ) (t : TypeName) (cs : List Resolution) : Prop where
  order : (cs.map (·.owner)).Sublist (r.graph.ancestors t)
  nodup : (cs.map (·.owner)).Nodup
  owners : ∀ o, o ∈ cs.map (·.owner) ↔ r.Offers t o
  registered : ∀ c ∈ cs, ∃ own, r.Owns c.owner own ∧ own.name = c.implementation

theorem lists_candidates (hr : r.WellFormed) (t : TypeName) : r.Lists t (r.candidates t) where
  order := by
    rw [owners_candidates]
    exact List.filter_sublist.trans List.filter_sublist
  nodup := nodup_owners_candidates r t
  owners _ := mem_owners_candidates_iff hr
  registered c hc := by
    obtain ⟨_, own, hown, hresolution⟩ := (mem_candidates_iff_offers hr).1 hc
    exact ⟨own, hown, congrArg (·.implementation) hresolution⟩

/-! ### Supertypes in another order -/

/-- The registries differ in nothing that resolution looks at but the order in which declarations
list supertypes, and how often. -/
structure Reorders (r r' : Registry α γ) : Prop where
  root : r'.root = r.root
  decls : ∀ n, Option.Rel TypeDecl.Reorders (r.graph.find? n) (r'.graph.find? n)
  implementations : ∀ t, Option.Rel
    (fun e e' => e.implementation.decl.Reorders e'.implementation.decl)
    (r.implementation? t) (r'.implementation? t)

/-- The same answer, but for the order in which an ambiguous one lists its candidates. -/
inductive SameUpToOrder : Except RegistryError Resolution → Except RegistryError Resolution → Prop
  | same {answer} : SameUpToOrder answer answer
  | ambiguous {p : TypeName} {l l' : List Resolution} (h : l.Perm l') : SameUpToOrder
      (.error (.ambiguousImplementation p l)) (.error (.ambiguousImplementation p l'))

/-- Which answer it is does not depend on the order of the candidates. -/
theorem settle_perm (t : TypeName) (h : cs.Perm cs') :
    SameUpToOrder (settle t cs) (settle t cs') := by
  rcases cs with _ | ⟨a, _ | ⟨b, rest⟩⟩
  · rw [h.nil_eq]
    exact .same
  · rw [List.singleton_perm.1 h]
    exact .same
  · have several : 1 < (a :: b :: rest).length := by simp
    rw [settle_of_one_lt several, settle_of_one_lt (h.length_eq ▸ several)]
    exact .ambiguous h

namespace Reorders

theorem extends_eq (h : r.Reorders r') : r'.graph.Extends = r.graph.Extends := by
  funext a b
  have related := h.decls a
  rw [TypeGraph.Extends, TypeGraph.Extends, TypeGraph.supertypes, TypeGraph.supertypes]
  generalize r.graph.find? a = d?, r'.graph.find? a = d?' at related ⊢
  cases related with
  | some hd => exact propext (hd.supertypes b)
  | none => rfl

theorem below_eq (h : r.Reorders r') : r'.graph.Below = r.graph.Below := by
  rw [TypeGraph.Below, TypeGraph.Below, h.extends_eq]

theorem mem_familyAncestors_iff (h : r.Reorders r') :
    o ∈ r'.graph.familyAncestors t r'.root ↔ o ∈ r.graph.familyAncestors t r.root := by
  simp only [TypeGraph.familyAncestors, List.mem_filter, TypeGraph.mem_ancestors_iff,
    TypeGraph.isAssignable_iff, h.below_eq, h.root]

theorem resolution_eq (h : r.Reorders r') (t : TypeName) :
    (r'.implementation? t).map (·.resolution) = (r.implementation? t).map (·.resolution) := by
  have related := h.implementations t
  have types : ∀ {s : Registry α γ} {e}, s.implementation? t = some e → e.type = t := fun he =>
    (Keyed.mem_of_find?_eq_some he).2
  generalize hx : r.implementation? t = x, hx' : r'.implementation? t = x' at related ⊢
  cases related with
  | none => rfl
  | @some e e' hd =>
    have name : e'.name = e.name := by
      rw [ImplementationEntry.name, hd.rest, ImplementationEntry.name]
    simp only [Option.map_some, ImplementationEntry.resolution, types hx, types hx', name]

theorem candidates_perm (h : r.Reorders r') (t : TypeName) :
    (r.candidates t).Perm (r'.candidates t) := by
  refine (List.perm_ext_iff_of_nodup (nodup_candidates r t) (nodup_candidates r' t)).2
    fun found => ?_
  simp only [mem_candidates_iff, ← Option.map_eq_some_iff, h.mem_familyAncestors_iff,
    h.resolution_eq]

theorem resolve (h : r.Reorders r') (t : TypeName) :
    SameUpToOrder (r.resolve t) (r'.resolve t) := by
  have resolutions := h.resolution_eq t
  cases he : r.implementation? t with
  | some e =>
    rw [he] at resolutions
    obtain ⟨e', he', hresolution⟩ := Option.map_eq_some_iff.1 resolutions
    rw [resolve_of_some he, resolve_of_some he', hresolution]
    exact .same
  | none =>
    rw [he] at resolutions
    rw [resolve_of_none he, resolve_of_none (Option.map_eq_none_iff.1 resolutions)]
    exact settle_perm t (h.candidates_perm t)

end Reorders

/-! ### Exactness -/

/-- CORRECT: a type that owns an implementation resolves to it. Any other resolves to what the only
ancestor that offers one owns, and where none offers one, or several do, the error says so, with
just these as candidates. With supertypes in another order the answer for every type is the same, up
to the order of the candidates. -/
theorem resolve_exact (hr : r.Reachable) :
    (∀ t,
      (∀ own, r.Owns t own → r.resolve t = .ok ⟨t, own.name⟩) ∧
      ((∀ own, ¬ r.Owns t own) →
        ((∀ o, ¬ r.Offers t o) → r.resolve t = .error (.noDefaultImplementation t)) ∧
        (∀ o own, r.Offers t o → (∀ o', r.Offers t o' → o' = o) → r.Owns o own →
          r.resolve t = .ok ⟨o, own.name⟩) ∧
        ∀ o o', r.Offers t o → r.Offers t o' → o ≠ o' →
          ∃ cs, r.resolve t = .error (.ambiguousImplementation t cs) ∧ r.Lists t cs)) ∧
    ∀ r', r.Reorders r' → ∀ t, SameUpToOrder (r.resolve t) (r'.resolve t) := by
  have wf := hr.wellFormed
  refine ⟨fun t => ⟨fun own => resolve_of_owns wf, fun hnone => ?_⟩, fun r' h => h.resolve⟩
  rw [resolve_of_none ((implementation?_eq_none_iff wf).2 hnone)]
  refine ⟨fun h => ?_, fun o own ho honly hown => ?_, fun o o' ho ho' hne => ?_⟩
  · rw [candidates_eq_nil wf h, settle]
  · obtain ⟨only, hc, rfl⟩ := candidates_eq_singleton wf ho honly
    have offered : own.resolution ∈ r.candidates t := by
      have offers : r.Offers t own.type := by rwa [hown.2]
      exact (mem_candidates_iff_offers wf).2 ⟨offers, own, ⟨hown.1, rfl⟩, rfl⟩
    obtain rfl : own.resolution = only := by simpa [hc] using offered
    rw [hc, settle]
    rfl
  · obtain ⟨a, b, rest, hc⟩ := candidates_eq_several wf ho ho' hne
    exact ⟨r.candidates t, settle_of_one_lt (by simp [hc]), lists_candidates wf t⟩

/-- `Ring` extends what is listed; `Named` and `Drawable` both have an implementation to offer. -/
def forkedRegistry (above : List TypeName) : Registry Unit Unit :=
  (empty "shapes" ⟨"Shape"⟩).run
    [.registerPublicType { name := ⟨"Named"⟩, supertypes := [⟨"Shape"⟩] },
      .registerPublicType { name := ⟨"Drawable"⟩, supertypes := [⟨"Shape"⟩] },
      .registerImplementation ⟨"Named"⟩ none
        ⟨{ name := ⟨"Label"⟩, supertypes := [⟨"Named"⟩], kind := .concrete }, some ()⟩,
      .registerImplementation ⟨"Drawable"⟩ none
        ⟨{ name := ⟨"Brush"⟩, supertypes := [⟨"Drawable"⟩], kind := .concrete }, some ()⟩,
      .registerPublicType { name := ⟨"Ring"⟩, supertypes := above }]

theorem reorders_forkedRegistry : (forkedRegistry [⟨"Named"⟩, ⟨"Drawable"⟩]).Reorders
    (forkedRegistry [⟨"Drawable"⟩, ⟨"Named"⟩, ⟨"Drawable"⟩]) := by
  have names : ∀ d d' : TypeDecl, d.Reorders d' → d.name = d'.name := fun d d' h => by rw [h.rest]
  have same : ∀ d : TypeDecl, d.Reorders d := fun d => ⟨fun _ => Iff.rfl, rfl⟩
  have decls : List.Forall₂ TypeDecl.Reorders
      (forkedRegistry [⟨"Named"⟩, ⟨"Drawable"⟩]).graph.decls
      (forkedRegistry [⟨"Drawable"⟩, ⟨"Named"⟩, ⟨"Drawable"⟩]).graph.decls := by
    have left : (forkedRegistry [⟨"Named"⟩, ⟨"Drawable"⟩]).graph.decls =
        (forkedRegistry []).graph.decls ++
          [{ name := ⟨"Ring"⟩, supertypes := [⟨"Named"⟩, ⟨"Drawable"⟩] }] := by cbv
    have right : (forkedRegistry [⟨"Drawable"⟩, ⟨"Named"⟩, ⟨"Drawable"⟩]).graph.decls =
        (forkedRegistry []).graph.decls ++
          [{ name := ⟨"Ring"⟩, supertypes := [⟨"Drawable"⟩, ⟨"Named"⟩, ⟨"Drawable"⟩] }] := by cbv
    rw [left, right]
    refine List.rel_append (List.forall₂_same.2 fun d _ => same d) (.cons ⟨fun s => ?_, rfl⟩ .nil)
    simp only [List.mem_cons, List.not_mem_nil]
    tauto
  have implementations :
      (forkedRegistry [⟨"Drawable"⟩, ⟨"Named"⟩, ⟨"Drawable"⟩]).implementations =
        (forkedRegistry [⟨"Named"⟩, ⟨"Drawable"⟩]).implementations := by cbv
  refine ⟨by cbv, fun n => Keyed.find?_rel decls names, fun t => ?_⟩
  rw [implementation?, implementation?, implementations]
  cases List.find? (·.type = t) (forkedRegistry [⟨"Named"⟩, ⟨"Drawable"⟩]).implementations with
  | none => exact .none
  | some e => exact .some (same _)

/-- `Named` resolves to what it owns; `Ring` is ambiguous in either order of its supertypes, and the
candidates stand in another order. -/
theorem resolve_exact_forked :
    let r := forkedRegistry [⟨"Named"⟩, ⟨"Drawable"⟩]
    let r' := forkedRegistry [⟨"Drawable"⟩, ⟨"Named"⟩, ⟨"Drawable"⟩]
    r.Reachable ∧ r.Reorders r' ∧ r.resolve ⟨"Named"⟩ = .ok ⟨⟨"Named"⟩, ⟨"Label"⟩⟩ ∧
      (∃ cs, r.resolve ⟨"Ring"⟩ = .error (.ambiguousImplementation ⟨"Ring"⟩ cs) ∧
        r.Lists ⟨"Ring"⟩ cs) ∧
      SameUpToOrder (r.resolve ⟨"Ring"⟩) (r'.resolve ⟨"Ring"⟩) ∧
      r.resolve ⟨"Ring"⟩ ≠ r'.resolve ⟨"Ring"⟩ := by
  have reachable : (forkedRegistry [⟨"Named"⟩, ⟨"Drawable"⟩]).Reachable := ⟨_, _, _, rfl⟩
  have wf := reachable.wellFormed
  have label : (forkedRegistry [⟨"Named"⟩, ⟨"Drawable"⟩]).implementation? ⟨"Named"⟩ =
      some ⟨⟨"Named"⟩, none,
        ⟨{ name := ⟨"Label"⟩, supertypes := [⟨"Named"⟩], kind := .concrete }, some ()⟩⟩ := by cbv
  have none : (forkedRegistry [⟨"Named"⟩, ⟨"Drawable"⟩]).implementation? ⟨"Ring"⟩ = none := by cbv
  have owners : ((forkedRegistry [⟨"Named"⟩, ⟨"Drawable"⟩]).candidates ⟨"Ring"⟩).map (·.owner) =
      [⟨"Named"⟩, ⟨"Drawable"⟩] := by cbv
  have offers : ∀ o ∈ [⟨"Named"⟩, ⟨"Drawable"⟩],
      (forkedRegistry [⟨"Named"⟩, ⟨"Drawable"⟩]).Offers ⟨"Ring"⟩ o := by
    intro o ho
    rwa [← mem_owners_candidates_iff wf, owners]
  obtain ⟨answers, reordered⟩ := resolve_exact reachable
  refine ⟨reachable, reorders_forkedRegistry, ?_, ?_, reordered _ reorders_forkedRegistry _, ?_⟩
  · exact (answers _).1 _ ((implementation?_eq_some_iff wf).1 label)
  · have named := offers ⟨"Named"⟩ (by simp)
    have drawable := offers ⟨"Drawable"⟩ (by simp)
    exact ((answers _).2 ((implementation?_eq_none_iff wf).1 none)).2.2 _ _ named drawable (by simp)
  · cbv
    simp

end Registry

end TypeFamily
