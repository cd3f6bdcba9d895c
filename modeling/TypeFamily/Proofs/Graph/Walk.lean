import Mathlib.Logic.Relation
import TypeFamily.TypeGraph

/-!
What the walk along declared supertypes finds. A name is below another when declared steps lead up
from it to the other; the walk lists exactly the names that its queue is below, so being assignable
is being below. Nothing here needs the graph to be free of cycles: a name that was seen before is
passed over, and what it leads to is in the queue or listed already.
-/

namespace TypeFamily.TypeGraph

/-- The declaration of `a` lists `b` among its supertypes. -/
def Extends (g : TypeGraph) (a b : TypeName) : Prop :=
  b ∈ g.supertypes a

/-- Declared steps, none or more, lead from `a` up to `b`. -/
def Below (g : TypeGraph) : TypeName → TypeName → Prop :=
  Relation.ReflTransGen g.Extends

/-- One declared step or more leads from `a` up to `b`. -/
def StrictlyBelow (g : TypeGraph) : TypeName → TypeName → Prop :=
  Relation.TransGen g.Extends

variable {g : TypeGraph} {seen queue : List TypeName} {a b m n t : TypeName}

theorem strictlyBelow_iff : g.StrictlyBelow a b ↔ ∃ s ∈ g.supertypes a, g.Below s b :=
  Relation.TransGen.head'_iff

theorem below_iff : g.Below a b ↔ b = a ∨ g.StrictlyBelow a b :=
  Relation.reflTransGen_iff_eq_or_transGen

/-- A listed name was not seen before, and the queue leads to it. -/
theorem below_of_mem_walk (h : m ∈ g.walk seen queue) : m ∉ seen ∧ ∃ q ∈ queue, g.Below q m := by
  fun_induction walk with
  | case1 => simp at h
  | case2 seen n queue hn ih =>
    obtain ⟨hm, q, hq, hqm⟩ := ih h
    exact ⟨hm, q, List.mem_cons_of_mem _ hq, hqm⟩
  | case3 seen n queue hn ih =>
    rcases List.mem_cons.1 h with rfl | h
    · exact ⟨hn, m, List.mem_cons_self, .refl⟩
    · obtain ⟨hm, q, hq, hqm⟩ := ih h
      refine ⟨fun hs => hm (List.mem_cons_of_mem _ hs), ?_⟩
      rcases List.mem_append.1 hq with hq | hq
      · exact ⟨q, List.mem_cons_of_mem _ hq, hqm⟩
      · exact ⟨n, List.mem_cons_self, Relation.ReflTransGen.head hq hqm⟩

/-- No name is listed twice. -/
theorem nodup_walk : (g.walk seen queue).Nodup := by
  fun_induction walk with
  | case1 => exact List.nodup_nil
  | case2 seen n queue hn ih => exact ih
  | case3 seen n queue hn ih =>
    exact List.nodup_cons.2 ⟨fun h => (below_of_mem_walk h).1 List.mem_cons_self, ih⟩

/-- What is in the queue gets listed, unless it was seen before. -/
theorem mem_walk_of_mem_queue (h : n ∈ queue) : n ∈ seen ∨ n ∈ g.walk seen queue := by
  fun_induction walk with
  | case1 => simp at h
  | case2 seen q queue hq ih =>
    rcases List.mem_cons.1 h with rfl | h
    · exact .inl hq
    · exact ih h
  | case3 seen q queue hq ih =>
    rcases List.mem_cons.1 h with rfl | h
    · exact .inr List.mem_cons_self
    · rcases ih (List.mem_append_left _ h) with hs | hw
      · rcases List.mem_cons.1 hs with rfl | hs
        · exact .inr List.mem_cons_self
        · exact .inl hs
      · exact .inr (List.mem_cons_of_mem _ hw)

/-- The supertypes of a listed name are listed too, unless they were seen before. -/
theorem mem_walk_of_extends (h : m ∈ g.walk seen queue) (hs : g.Extends m n) :
    n ∈ seen ∨ n ∈ g.walk seen queue := by
  fun_induction walk with
  | case1 => simp at h
  | case2 seen q queue hq ih => exact ih h
  | case3 seen q queue hq ih =>
    have later : n ∈ q :: seen ∨ n ∈ g.walk (q :: seen) (queue ++ g.supertypes q) := by
      rcases List.mem_cons.1 h with rfl | h
      · exact mem_walk_of_mem_queue (List.mem_append_right _ hs)
      · exact ih h
    rcases later with hn | hn
    · rcases List.mem_cons.1 hn with rfl | hn
      · exact .inr List.mem_cons_self
      · exact .inl hn
    · exact .inr (List.mem_cons_of_mem _ hn)

/-- If all that leads out of the seen names is seen or queued, then so is, or gets listed, whatever
a seen or queued name is below. -/
theorem mem_walk_of_below
    (closed : ∀ x ∈ seen, ∀ y, g.Extends x y → y ∈ seen ∨ y ∈ queue)
    (ha : a ∈ seen ∨ a ∈ queue) (hab : g.Below a b) : b ∈ seen ∨ b ∈ g.walk seen queue := by
  have listed {x : TypeName} (hx : x ∈ seen ∨ x ∈ queue) : x ∈ seen ∨ x ∈ g.walk seen queue :=
    hx.elim .inl mem_walk_of_mem_queue
  induction hab with
  | refl => exact listed ha
  | tail _ hstep ih =>
    rcases ih with hx | hx
    · exact listed (closed _ hx _ hstep)
    · exact mem_walk_of_extends hx hstep

/-- With nothing seen before, the walk lists exactly what the queue is below. -/
theorem mem_walk_nil_iff : m ∈ g.walk [] queue ↔ ∃ q ∈ queue, g.Below q m := by
  constructor
  · exact fun h => (below_of_mem_walk h).2
  · rintro ⟨q, hq, hqm⟩
    have listed : m ∈ [] ∨ m ∈ g.walk [] queue := mem_walk_of_below (by simp) (.inr hq) hqm
    exact listed.resolve_left List.not_mem_nil

/-- The ancestors of a name are the other names that it is below. -/
theorem mem_ancestors_iff : m ∈ g.ancestors n ↔ m ≠ n ∧ g.Below n m := by
  rw [ancestors]
  constructor
  · intro h
    obtain ⟨hm, q, hq, hqm⟩ := below_of_mem_walk h
    exact ⟨by simpa using hm, Relation.ReflTransGen.head hq hqm⟩
  · rintro ⟨hm, hnm⟩
    have listed : m ∈ [n] ∨ m ∈ g.walk [n] (g.supertypes n) := by
      refine mem_walk_of_below ?_ (.inl List.mem_cons_self) hnm
      intro x hx y hxy
      rw [List.mem_singleton.1 hx] at hxy
      exact .inr hxy
    exact listed.resolve_left (by simpa using hm)

/-- To be assignable is to be below. -/
theorem isAssignable_iff : g.isAssignable t n ↔ g.Below n t := by
  rw [isAssignable, decide_eq_true_iff, mem_ancestors_iff]
  constructor
  · rintro (rfl | ⟨_, h⟩)
    · exact .refl
    · exact h
  · intro h
    by_cases htn : t = n
    · exact .inl htn
    · exact .inr ⟨htn, h⟩

/-- What a name is below depends only on the supertypes of the names on the way. -/
theorem below_congr {g' : TypeGraph}
    (h : ∀ x, g.Below a x → g'.supertypes x = g.supertypes x) : g'.Below a b ↔ g.Below a b := by
  constructor
  · intro hab
    induction hab with
    | refl => exact .refl
    | tail _ hstep ih =>
      rw [Extends, h _ ih] at hstep
      exact ih.tail hstep
  · intro hab
    induction hab with
    | refl => exact .refl
    | tail hax hstep ih => exact ih.tail (by rw [Extends, h _ hax]; exact hstep)

theorem walk_congr {g' : TypeGraph} (h : ∀ x, g'.supertypes x = g.supertypes x) :
    g'.walk seen queue = g.walk seen queue := by
  fun_induction g.walk seen queue with
  | case1 => rw [walk]
  | case2 seen n queue hn ih => rw [walk, if_pos hn, ih]
  | case3 seen n queue hn ih => rw [walk, if_neg hn, h, ih]

end TypeFamily.TypeGraph
