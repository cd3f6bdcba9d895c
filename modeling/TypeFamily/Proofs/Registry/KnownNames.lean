import Mathlib.Data.String.Basic
import TypeFamily.Proofs.Registry.Alike
import TypeFamily.Proofs.Registry.Rule
import TypeFamily.Proofs.Text.Escape

/-!
How the types with a factory are listed. Each is listed by its last segment, or by its full name
where another of them ends in the same segment. A full name could only be taken for a segment if it
had no dot, and then it would be its own last segment, so no two types are listed alike; and since
the list is sorted, it tells which types there are and nothing of how they came.
-/

namespace TypeFamily

namespace TypeName

/-- The segment `s` stands after the last dot of a name, or is all of it. -/
def EndsIn (n : TypeName) (s : String) : Prop :=
  '.' ∉ s.toList ∧ (n.text = s ∨ ∃ before, n.text = before ++ "." ++ s)

/-- What comes before the first `c` has none in it, and is followed by one or is everything. -/
theorem takeWhile_ne_eq_iff {c : Char} {l before : List Char} :
    l.takeWhile (· ≠ c) = before ↔
      c ∉ before ∧ (l = before ∨ ∃ rest, l = before ++ c :: rest) := by
  induction l generalizing before with
  | nil => cases before <;> simp
  | cons x l ih =>
    by_cases hx : x = c
    · subst hx
      cases before with
      | nil => simp
      | cons y before =>
        refine iff_of_false (by simp) ?_
        rintro ⟨hmem, h⟩
        have hhead : x = y := by
          rcases h with h | ⟨rest, h⟩
          · exact (List.cons.inj h).1
          · exact (List.cons.inj h).1
        exact hmem (hhead ▸ List.mem_cons_self)
    · cases before with
      | nil => simp [hx]
      | cons y before =>
        rw [List.takeWhile_cons_of_pos (by simpa using hx), List.cons.injEq, ih]
        simp only [List.mem_cons, not_or, List.cons_append, List.cons.injEq]
        constructor
        · rintro ⟨rfl, hmem, h⟩
          exact ⟨⟨Ne.symm hx, hmem⟩, by simpa using h⟩
        · rintro ⟨⟨_, hmem⟩, h⟩
          have hhead : x = y := by
            rcases h with h | ⟨rest, h⟩
            · exact h.1
            · exact h.1
          exact ⟨hhead, hmem, by simpa [hhead] using h⟩

/-- The simple name is the last segment. -/
theorem endsIn_iff {n : TypeName} {s : String} : n.EndsIn s ↔ n.simple = s := by
  have whole : n.text.toList.reverse = s.toList.reverse ↔ n.text = s := by
    rw [List.reverse_inj, String.toList_inj]
  have dotted : (∃ rest, n.text.toList.reverse = s.toList.reverse ++ '.' :: rest) ↔
      ∃ before, n.text = before ++ "." ++ s := by
    constructor
    · rintro ⟨rest, h⟩
      refine ⟨String.ofList rest.reverse, String.toList_inj.1 ?_⟩
      rw [← List.reverse_inj, h]
      simp
    · rintro ⟨before, h⟩
      exact ⟨before.toList.reverse, by simp [h]⟩
  rw [EndsIn, simple, String.ofList_eq, List.reverse_eq_iff, takeWhile_ne_eq_iff, List.mem_reverse,
    whole, dotted]

theorem endsIn_simple (n : TypeName) : n.EndsIn n.simple :=
  endsIn_iff.2 rfl

/-- A segment taken for a full name ends in itself. -/
theorem endsIn_of_text {n u : TypeName} {s : String} (h : u.EndsIn s) (hn : n.text = s) :
    n.EndsIn s :=
  ⟨h.1, .inl hn⟩

end TypeName

namespace Registry

variable {α γ : Type} {r r' : Registry α γ} {t u : TypeName} {s s' : String}
  {types types' : List TypeName} {among : TypeName → Prop}

/-! ### Entries -/

/-- Another type among these ends in the same segment. -/
def Shares (among : TypeName → Prop) (t : TypeName) : Prop :=
  ∃ u, among u ∧ u ≠ t ∧ ∃ s, t.EndsIn s ∧ u.EndsIn s

/-- How a type is listed among others: by its last segment, unless that is shared. -/
inductive ListedAs (among : TypeName → Prop) (t : TypeName) : String → Prop
  | segment {s : String} (alone : ¬ Shares among t) (h : t.EndsIn s) : ListedAs among t s
  | full (shared : Shares among t) : ListedAs among t t.text

theorem shares_iff : Shares among t ↔ ∃ u, among u ∧ u ≠ t ∧ u.simple = t.simple := by
  simp only [Shares, TypeName.endsIn_iff]
  refine exists_congr fun u => and_congr_right fun _ => and_congr_right fun _ => ?_
  exact ⟨fun ⟨_, ht, hu⟩ => hu.trans ht.symm, fun h => ⟨_, rfl, h⟩⟩

/-- No two types are listed alike: each entry has the last segment of its type, and one that is
shared is a full name. -/
theorem ListedAs.type_eq (ht : among t) (hu : among u) (h : ListedAs among t s)
    (h' : ListedAs among u s) : t = u := by
  by_contra hne
  cases h with
  | segment alone hend =>
    cases h' with
    | segment _ hend' => exact alone ⟨u, hu, Ne.symm hne, s, hend, hend'⟩
    | full _ =>
      exact alone ⟨u, hu, Ne.symm hne, _, hend, TypeName.endsIn_of_text hend rfl⟩
  | full _ =>
    generalize hs : t.text = s at h'
    cases h' with
    | segment alone hend =>
      exact alone ⟨t, ht, hne, s, hend, TypeName.endsIn_of_text hend hs⟩
    | full _ => exact hne (by cases t; cases u; exact congrArg TypeName.mk hs)

/-- A type with a dot in its name is listed by its last segment exactly if that is not shared. -/
theorem ListedAs.eq_simple_iff (h : ListedAs among t s) :
    s = t.simple ↔ ¬ Shares among t ∨ t.text = t.simple := by
  cases h with
  | segment alone hend => exact iff_of_true (TypeName.endsIn_iff.1 hend).symm (.inl alone)
  | full shared => exact ⟨.inr, fun h => h.resolve_left (not_not_intro shared)⟩

theorem ListedAs.unique (h : ListedAs among t s) (h' : ListedAs among t s') : s = s' := by
  cases h with
  | segment alone hend =>
    cases h' with
    | segment _ hend' => rw [← TypeName.endsIn_iff.1 hend, TypeName.endsIn_iff.1 hend']
    | full shared => exact absurd shared alone
  | full shared =>
    cases h' with
    | segment alone _ => exact absurd shared alone
    | full _ => rfl

/-- `names` lists the types among these, in order: each has one entry, and each entry is of one. -/
structure ListsApart (among : TypeName → Prop) (names : List String) : Prop where
  sorted : names.Pairwise (· < ·)
  entry : ∀ t, among t → ∃! s, s ∈ names ∧ ListedAs among t s
  type : ∀ s ∈ names, ∃! t, among t ∧ ListedAs among t s

theorem ListsApart.mem_iff {names : List String} (h : ListsApart among names) :
    s ∈ names ↔ ∃ t, among t ∧ ListedAs among t s := by
  constructor
  · intro hs
    exact (h.type s hs).exists
  · rintro ⟨t, ht, hentry⟩
    obtain ⟨s', hs', hentry'⟩ := (h.entry t ht).exists
    rwa [hentry.unique hentry']

/-- There is one way to list the types among these. -/
theorem ListsApart.unique {names names' : List String} (h : ListsApart among names)
    (h' : ListsApart among names') : names = names' := by
  have nodup : ∀ {names : List String}, names.Pairwise (· < ·) → names.Nodup := fun sorted =>
    sorted.imp fun hlt => hlt.ne
  have perm : names.Perm names' :=
    (List.perm_ext_iff_of_nodup (nodup h.sorted) (nodup h'.sorted)).2 fun s => by
      rw [h.mem_iff, h'.mem_iff]
  exact perm.eq_of_pairwise (fun _ _ _ _ hlt hgt => absurd hgt hlt.asymm) h.sorted h'.sorted

/-! ### The list -/

/-- The entry that a list of types gives to one of them. -/
def entry (types : List TypeName) (t : TypeName) : String :=
  if 1 < types.countP (·.simple = t.simple) then t.text else t.simple

theorem tellApart_eq (types : List TypeName) :
    tellApart types = (types.map (entry types)).mergeSort (· ≤ ·) :=
  rfl

theorem tellApart_perm_map (types : List TypeName) :
    (tellApart types).Perm (types.map (entry types)) :=
  List.mergeSort_perm _ _

theorem one_lt_countP_iff (h : types.Nodup) (ht : t ∈ types) :
    1 < types.countP (·.simple = t.simple) ↔ Shares (· ∈ types) t := by
  have others : types.countP (·.simple = t.simple) =
      (types.erase t).countP (·.simple = t.simple) + 1 := by
    rw [(List.perm_cons_erase ht).countP_eq, List.countP_cons_of_pos (by simp)]
  rw [others, Nat.lt_add_left_iff_pos, List.countP_pos_iff, shares_iff]
  refine exists_congr fun u => ?_
  rw [h.mem_erase_iff, decide_eq_true_iff, and_assoc, and_left_comm]

theorem listedAs_iff (h : types.Nodup) (ht : t ∈ types) :
    ListedAs (· ∈ types) t s ↔ entry types t = s := by
  rw [entry]
  by_cases shared : Shares (· ∈ types) t
  · rw [if_pos ((one_lt_countP_iff h ht).2 shared)]
    constructor
    · rintro (⟨alone, _⟩ | _)
      · exact absurd shared alone
      · rfl
    · rintro rfl
      exact .full shared
  · rw [if_neg (mt (one_lt_countP_iff h ht).1 shared)]
    constructor
    · rintro (⟨_, hend⟩ | shared')
      · exact TypeName.endsIn_iff.1 hend
      · exact absurd shared' shared
    · rintro rfl
      exact .segment shared t.endsIn_simple

/-- Types are told apart by the list of them, however they are given. -/
theorem listsApart_tellApart (h : types.Nodup) : ListsApart (· ∈ types) (tellApart types) := by
  have mem : ∀ s, s ∈ tellApart types ↔ ∃ t ∈ types, entry types t = s := fun s => by
    rw [(tellApart_perm_map types).mem_iff, List.mem_map]
  refine ⟨?_, fun t ht => ?_, fun s hs => ?_⟩
  · have injective : ∀ t ∈ types, ∀ u ∈ types, entry types t = entry types u → t = u := by
      intro t ht u hu heq
      have hentry := (listedAs_iff h ht).2 rfl
      exact hentry.type_eq ht hu ((listedAs_iff h hu).2 heq.symm)
    have nodup : (tellApart types).Nodup := by
      rw [(tellApart_perm_map types).nodup_iff]
      exact h.map_on injective
    exact ((pairwise_mergeSort _).and nodup).imp fun hle => lt_of_le_of_ne hle.1 hle.2
  · have hentry := (listedAs_iff h ht).2 rfl
    exact ⟨_, ⟨(mem _).2 ⟨t, ht, rfl⟩, hentry⟩, fun s hs => hs.2.unique hentry⟩
  · obtain ⟨t, ht, rfl⟩ := (mem s).1 hs
    have hentry := (listedAs_iff h ht).2 rfl
    exact ⟨t, ⟨ht, hentry⟩, fun u hu => hu.2.type_eq hu.1 ht hentry⟩

theorem mem_factories_iff : t ∈ r.factories.map (·.type) ↔ r.hasFactory t := by
  rw [hasFactory, Option.isSome_iff_ne_none, factory?, ne_eq, Keyed.find?_eq_none_iff, not_not]

theorem listsApart_knownNames (hr : r.WellFormed) : ListsApart (r.hasFactory ·) r.knownNames := by
  have among : (fun t => (r.hasFactory t : Prop)) = (· ∈ r.factories.map (·.type)) :=
    funext fun t => propext mem_factories_iff.symm
  rw [among, knownNames]
  exact listsApart_tellApart hr.factories_nodup

theorem create_eq_error_iff {context : γ} {name : String} {e : RegistryError} :
    r.create t context name = .error e ↔
      ¬ r.hasFactory t ∧ e = .unknownType t r.displayName r.knownNames := by
  rw [create, hasFactory]
  cases r.factory? t <;> simp [eq_comm]

/-! ### In words -/

theorem phrase_eq (r : Registry α γ) : r.phrase =
    if r.knownNames = [] then "[(None)]" else "[" ++ ", ".intercalate r.knownNames ++ "]" := by
  rw [phrase, RegistryError.nameList]
  cases r.knownNames with
  | nil => rfl
  | cons name names => rfl

theorem message_unknownType (t : TypeName) (family : String) (names : List String) :
    (RegistryError.unknownType t family names).message =
      "Cannot create a " ++ t.simple ++ " because this type is not known to " ++ family ++
        ". Known types are: " ++ if names = [] then "(None)" else ", ".intercalate names := by
  cases names with
  | nil => rfl
  | cons name names => rfl

theorem inspect_eq (r : Registry α γ) : r.inspect =
    "InstanceFactory \x7b display_name: " ++ Text.Inspect.quoted r.displayName ++
      ", base_interface: TypeName(" ++ Text.Inspect.quoted r.root.text ++
      "), public_types: \x7b" ++
      ", ".intercalate (r.publicTypes.map fun t =>
        "TypeName(" ++ Text.Inspect.quoted t.text ++ ")") ++
      "\x7d, factories: [" ++ ", ".intercalate (r.knownNames.map Text.Inspect.quoted) ++
      "], implementations: " ++ toString r.implementations.length ++ " \x7d" := by
  unfold inspect Text.Inspect.record TypeName.inspect Text.Inspect.wrapped Text.Inspect.set
    Text.Inspect.list
  rw [← String.toList_inj]
  simp

/-- CORRECT: where there is no factory for a type, the error lists those that have one, in its
message too, and so does the registry in words or inspected: in order, each once and told apart, by
its last segment if no other ends in it and else by its full name. The list is one and the same for
all registries with factories for these types, and in whatever order they are kept. -/
theorem knownNames_tell_apart (hr : r.Reachable) :
    (∀ t context name e, r.create t context name = .error e ↔
      ¬ r.hasFactory t ∧ e = .unknownType t r.displayName r.knownNames) ∧
    (∀ t, (RegistryError.unknownType t r.displayName r.knownNames).message =
      "Cannot create a " ++ t.simple ++ " because this type is not known to " ++ r.displayName ++
        ". Known types are: " ++
          if r.knownNames = [] then "(None)" else ", ".intercalate r.knownNames) ∧
    r.phrase =
      (if r.knownNames = [] then "[(None)]" else "[" ++ ", ".intercalate r.knownNames ++ "]") ∧
    r.inspect =
      "InstanceFactory \x7b display_name: " ++ Text.Inspect.quoted r.displayName ++
        ", base_interface: TypeName(" ++ Text.Inspect.quoted r.root.text ++
        "), public_types: \x7b" ++
        ", ".intercalate (r.publicTypes.map fun t =>
          "TypeName(" ++ Text.Inspect.quoted t.text ++ ")") ++
        "\x7d, factories: [" ++ ", ".intercalate (r.knownNames.map Text.Inspect.quoted) ++
        "], implementations: " ++ toString r.implementations.length ++ " \x7d" ∧
    (∀ text s, Text.ReadsAs (Text.Inspect.quoted text) s ↔ s = text) ∧
    ListsApart (r.hasFactory ·) r.knownNames ∧ r.knownNames.length = r.factories.length ∧
    (∀ t s, ListedAs (r.hasFactory ·) t s →
      (s = t.simple ↔ ¬ Shares (r.hasFactory ·) t ∨ t.text = t.simple)) ∧
    (∀ r' : Registry α γ, r'.Reachable → (∀ t, r'.hasFactory t ↔ r.hasFactory t) →
      r'.knownNames = r.knownNames) ∧
    ∀ types, types.Nodup → (∀ t, t ∈ types ↔ r.hasFactory t) → tellApart types = r.knownNames := by
  have lists := listsApart_knownNames hr.wellFormed
  refine ⟨fun _ _ _ _ => create_eq_error_iff, fun t => message_unknownType t _ _, phrase_eq r,
    inspect_eq r, fun _ _ => Text.readsAs_inspect_iff, lists, ?_, fun _ _ => ListedAs.eq_simple_iff,
    fun r' hr' same => ?_, fun types htypes same => ?_⟩
  · rw [knownNames, (tellApart_perm_map _).length_eq, List.length_map, List.length_map]
  · have lists' := listsApart_knownNames hr'.wellFormed
    rw [funext fun t => propext (same t)] at lists'
    exact lists'.unique lists
  · have lists' := listsApart_tellApart htypes
    rw [funext fun t => propext (same t)] at lists'
    exact lists'.unique lists

/-- Two circles, a square, and a name that ends in a dot. -/
def segmentRegistry : Registry Unit Unit :=
  (empty "shapes" ⟨"Shape"⟩).run (["geo.Circle", "Square", "geo.", "Circle"].map fun name =>
    .registerFactory ⟨name⟩ none fun _ context => ((), context))

/-- The circles are listed in full, and the last segment of the name that ends in a dot is empty.
Without any factory, there is a word for that. -/
theorem knownNames_tell_apart_circles : segmentRegistry.Reachable ∧
    segmentRegistry.create ⟨"Disc"⟩ () "disc" =
      .error (.unknownType ⟨"Disc"⟩ "shapes" ["", "Circle", "Square", "geo.Circle"]) ∧
    (RegistryError.unknownType ⟨"Disc"⟩ "shapes" ["", "Circle", "Square", "geo.Circle"]).message =
      "Cannot create a Disc because this type is not known to shapes. Known types are: " ++
        ", Circle, Square, geo.Circle" ∧
    segmentRegistry.phrase = "[, Circle, Square, geo.Circle]" ∧
    segmentRegistry.inspect = "InstanceFactory \x7b display_name: " ++ "\"shapes\"" ++
      ", base_interface: TypeName(" ++ "\"Shape\"" ++ "), public_types: \x7b" ++ "" ++
      "\x7d, factories: [" ++ "\"\", \"Circle\", \"Square\", \"geo.Circle\"" ++
      "], implementations: " ++ "0" ++ " \x7d" ∧
    (empty "shapes" ⟨"Shape"⟩ : Registry Unit Unit).phrase = "[(None)]" ∧
    (RegistryError.unknownType ⟨"Disc"⟩ "shapes" []).message =
      "Cannot create a Disc because this type is not known to shapes. Known types are: (None)" := by
  have reachable : segmentRegistry.Reachable := ⟨_, _, _, rfl⟩
  obtain ⟨create, message, words, inspected, _, _, _, _, _, unique⟩ :=
    knownNames_tell_apart reachable
  have registered : segmentRegistry.factories.map (·.type) =
      [⟨"geo.Circle"⟩, ⟨"Square"⟩, ⟨"geo."⟩, ⟨"Circle"⟩] := by cbv
  have displayName : segmentRegistry.displayName = "shapes" := by cbv
  have root : segmentRegistry.root = ⟨"Shape"⟩ := by cbv
  have publicTypes : segmentRegistry.publicTypes = [] := by cbv
  have implementations : segmentRegistry.implementations = [] := by cbv
  -- given in the order of their entries, the types need no sorting
  have known : segmentRegistry.knownNames = ["", "Circle", "Square", "geo.Circle"] := by
    rw [← unique [⟨"geo."⟩, ⟨"Circle"⟩, ⟨"Square"⟩, ⟨"geo.Circle"⟩] (by decide) fun t => ?_]
    · have entries : [⟨"geo."⟩, ⟨"Circle"⟩, ⟨"Square"⟩, ⟨"geo.Circle"⟩].map
          (entry [⟨"geo."⟩, ⟨"Circle"⟩, ⟨"Square"⟩, ⟨"geo.Circle"⟩]) =
            ["", "Circle", "Square", "geo.Circle"] := by cbv
      rw [tellApart_eq, entries]
      exact List.mergeSort_of_pairwise (by decide)
    · rw [← mem_factories_iff, registered]
      simp only [List.mem_cons, List.not_mem_nil]
      tauto
  have bare : (empty "shapes" ⟨"Shape"⟩ : Registry Unit Unit).Reachable := ⟨_, _, [], rfl⟩
  obtain ⟨_, message', words', _⟩ := knownNames_tell_apart bare
  have unknown : (empty "shapes" ⟨"Shape"⟩ : Registry Unit Unit).knownNames = [] := by
    have factories : (empty "shapes" ⟨"Shape"⟩ : Registry Unit Unit).factories = [] := by rfl
    rw [knownNames, factories, tellApart_eq, List.map_nil, List.map_nil, List.mergeSort_nil]
  rw [known, displayName] at message
  rw [known] at words
  have family : Text.Inspect.quoted "shapes" = "\"shapes\"" := by decide
  have shape : Text.Inspect.quoted "Shape" = "\"Shape\"" := by decide
  have quoted : ", ".intercalate
      (["", "Circle", "Square", "geo.Circle"].map Text.Inspect.quoted) =
        "\"\", \"Circle\", \"Square\", \"geo.Circle\"" := by decide
  rw [known, displayName, root, publicTypes, implementations, family, shape, quoted, List.map_nil,
    String.intercalate_nil] at inspected
  rw [unknown] at message' words'
  refine ⟨reachable, (create _ _ _ _).2 ⟨?_, ?_⟩, (message ⟨"Disc"⟩).trans ?_, words.trans ?_,
    inspected, words', (message' ⟨"Disc"⟩).trans ?_⟩
  · rw [← mem_factories_iff, registered]
    decide
  · rw [known, displayName]
  · decide
  · decide
  · decide

end Registry

end TypeFamily
