import TypeFamily.Error

/-!
The declared hierarchy of types. A graph holds declarations by name; a name that others mention but
nobody declares is a leaf. All questions about ancestry are answered from one breadth-first walk
along declared supertypes, which ends on every graph, cyclic or not: each step either passes a
declared name for the first time or shortens the queue.
-/

namespace TypeFamily

/-- The declarations made so far, oldest first. -/
structure TypeGraph where
  decls : List TypeDecl := []
deriving DecidableEq, Inhabited, Repr

/-- What declared ancestry says about a type extending another. -/
inductive Reachability where
  /-- It does, and will whatever is declared later. -/
  | reaches
  /-- It does not, and every ancestor is declared. -/
  | doesNotReach
  /-- It does not yet, but some ancestor is still undeclared. -/
  | undecided
deriving DecidableEq, Repr

namespace TypeGraph

/-- A graph in which only the root interface of a family is declared. -/
def rooted (root : TypeName) : TypeGraph :=
  ⟨[{ name := root }]⟩

/-- The declaration of a name. -/
def find? (g : TypeGraph) (n : TypeName) : Option TypeDecl :=
  g.decls.find? (·.name = n)

def contains (g : TypeGraph) (n : TypeName) : Bool :=
  (g.find? n).isSome

def size (g : TypeGraph) : Nat :=
  g.decls.length

def isEmpty (g : TypeGraph) : Bool :=
  g.decls.isEmpty

/-- The supertypes that the declaration of a name lists; none if it is not declared. -/
def supertypes (g : TypeGraph) (n : TypeName) : List TypeName :=
  match g.find? n with
  | some d => d.supertypes
  | none => []

def isManaged (g : TypeGraph) (n : TypeName) : Bool :=
  (g.find? n).any (·.managed)

/-- How many declarations have a name outside `seen`. -/
def unseen (g : TypeGraph) (seen : List TypeName) : Nat :=
  g.decls.countP (·.name ∉ seen)

theorem unseen_cons_le (g : TypeGraph) (n : TypeName) (seen : List TypeName) :
    g.unseen (n :: seen) ≤ g.unseen seen := by
  refine List.countP_mono_left fun d _ hd => ?_
  simp only [List.mem_cons, not_or, decide_eq_true_eq] at hd ⊢
  exact hd.2

/-- A test that passes less, and fails one member more, counts fewer members. -/
theorem countP_lt_of_mem {α : Type} {p q : α → Bool} {l : List α} {a : α}
    (hpq : ∀ x, p x = true → q x = true) (ha : a ∈ l) (hp : p a = false) (hq : q a = true) :
    l.countP p < l.countP q := by
  induction l with
  | nil => simp at ha
  | cons b bs ih =>
    have le : bs.countP p ≤ bs.countP q := List.countP_mono_left fun x _ => hpq x
    rw [List.countP_cons, List.countP_cons]
    rcases List.mem_cons.1 ha with rfl | hb
    · rw [if_neg (by simp [hp]), if_pos hq]
      omega
    · have lt := ih hb
      by_cases h : p b = true
      · rw [if_pos h, if_pos (hpq b h)]
        omega
      · rw [if_neg h]
        omega

/-- Passing a name with supertypes leaves fewer declarations unseen. -/
theorem unseen_cons_lt {g : TypeGraph} {n : TypeName} {seen : List TypeName} (hn : n ∉ seen)
    (hs : g.supertypes n ≠ []) : g.unseen (n :: seen) < g.unseen seen := by
  obtain ⟨d, hd, rfl⟩ : ∃ d ∈ g.decls, d.name = n := by
    rw [supertypes, find?] at hs
    cases h : g.decls.find? (·.name = n) with
    | none => simp [h] at hs
    | some d => exact ⟨d, List.mem_of_find?_eq_some h, by simpa using List.find?_some h⟩
  refine countP_lt_of_mem (fun x hx => ?_) hd (by simp) (by simpa using hn)
  simp only [List.mem_cons, not_or, decide_eq_true_eq] at hx ⊢
  exact hx.2

/-- Lists the names that the queue leads to, each when its turn comes and unless it was seen
before; its supertypes then join the end of the queue. -/
def walk (g : TypeGraph) (seen : List TypeName) : List TypeName → List TypeName
  | [] => []
  | n :: queue =>
    if n ∈ seen then g.walk seen queue
    else n :: g.walk (n :: seen) (queue ++ g.supertypes n)
termination_by queue => (g.unseen seen, queue.length)
decreasing_by
  · exact Prod.Lex.right _ (by simp)
  · rename_i hn
    by_cases hs : g.supertypes n = []
    · rw [hs, List.append_nil]
      rcases Nat.lt_or_eq_of_le (g.unseen_cons_le n seen) with h | h
      · exact Prod.Lex.left _ _ h
      · rw [h]
        exact Prod.Lex.right _ (by simp)
    · exact Prod.Lex.left _ _ (unseen_cons_lt hn hs)

/-- The names above `n`, breadth first and each once, without `n` itself. -/
def ancestors (g : TypeGraph) (n : TypeName) : List TypeName :=
  g.walk [n] (g.supertypes n)

/-- Whether a `candidate` can stand where a `target` is asked for: it is the target or extends it
over any number of declared steps. -/
def isAssignable (g : TypeGraph) (target candidate : TypeName) : Bool :=
  target = candidate ∨ target ∈ g.ancestors candidate

/-- The ancestors of `n` that belong to the family of `root`, in the order of the walk. -/
def familyAncestors (g : TypeGraph) (n root : TypeName) : List TypeName :=
  (g.ancestors n).filter (g.isAssignable root)

/-- Whether a type declared as `d` would extend `target`, as far as declared ancestry tells. The
declaration itself need not have been made. -/
def reaches (g : TypeGraph) (d : TypeDecl) (target : TypeName) : Reachability :=
  let above := g.walk [] d.supertypes
  if d.name = target ∨ target ∈ above then .reaches
  else if above.all g.contains then .doesNotReach
  else .undecided

/-- Adds a declaration. One that was made before may be repeated; one that differs from it, or that
would put a type above itself, is refused. -/
def declare (g : TypeGraph) (d : TypeDecl) : Except RegistryError TypeGraph :=
  match g.find? d.name with
  | some existing =>
    if existing = d then .ok g else .error (.conflictingDeclaration d.name existing d)
  | none =>
    match d.supertypes.find? (g.isAssignable d.name) with
    | some supertype => .error (.cyclicHierarchy d.name supertype)
    | none => .ok ⟨g.decls ++ [d]⟩

end TypeGraph

end TypeFamily
