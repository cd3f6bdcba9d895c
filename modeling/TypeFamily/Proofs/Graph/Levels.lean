import Mathlib.Logic.Function.Iterate
import Mathlib.Order.Lattice.Nat
import TypeFamily.Proofs.Graph.Walk

/-!
The order of the ancestors. The walk marks a name when its turn comes, not when it starts to wait,
so a name may wait several times; still it ends, after as many turns as there are supertypes to wait
for, and it lists what extending level by level gives: first the supertypes of a name, then what
those extend, and so on, each name where it first comes. A level holds the names at one distance, so
ancestors stand in the order of their distance.
-/

namespace TypeFamily.TypeGraph

variable {g : TypeGraph} {listed names seen seen' queue : List TypeName} {a b m n : TypeName}
  {j k : Nat}

/-! ### The loop -/

/-- Where the loop that lists ancestors stands: the names that are marked, those that wait, and
those that are listed. -/
structure Scan where
  seen : List TypeName
  queue : List TypeName
  out : List TypeName

/-- One turn of the loop. A marked name is passed over; any other is marked and listed, and its
supertypes wait from now on. With none waiting there are no more turns. -/
def turn (g : TypeGraph) (s : Scan) : Scan :=
  match s.queue with
  | [] => s
  | n :: queue =>
    if n ∈ s.seen then { s with queue }
    else { seen := n :: s.seen, queue := queue ++ g.supertypes n, out := s.out ++ [n] }

/-- The loop ends: each turn takes one name off the queue, and only a name that gets listed puts any
there. What it lists is what the walk lists. -/
theorem iterate_turn (g : TypeGraph) (seen queue out : List TypeName) :
    (g.turn^[queue.length + ((g.walk seen queue).flatMap g.supertypes).length]
        ⟨seen, queue, out⟩).queue = [] ∧
      (g.turn^[queue.length + ((g.walk seen queue).flatMap g.supertypes).length]
        ⟨seen, queue, out⟩).out = out ++ g.walk seen queue := by
  fun_induction walk generalizing out with
  | case1 => simp
  | case2 seen n queue hn ih =>
    have first : g.turn ⟨seen, n :: queue, out⟩ = ⟨seen, queue, out⟩ := by simp [turn, hn]
    rw [List.length_cons, Nat.add_right_comm, Function.iterate_succ_apply, first]
    exact ih out
  | case3 seen n queue hn ih =>
    have first : g.turn ⟨seen, n :: queue, out⟩ =
        ⟨n :: seen, queue ++ g.supertypes n, out ++ [n]⟩ := by simp [turn, hn]
    have turns : (n :: queue).length +
        ((n :: g.walk (n :: seen) (queue ++ g.supertypes n)).flatMap g.supertypes).length =
          (queue ++ g.supertypes n).length +
            ((g.walk (n :: seen) (queue ++ g.supertypes n)).flatMap g.supertypes).length + 1 := by
      simp only [List.length_cons, List.flatMap_cons, List.length_append]
      omega
    rw [turns, Function.iterate_succ_apply, first]
    obtain ⟨hqueue, hout⟩ := ih (out ++ [n])
    refine ⟨hqueue, ?_⟩
    rw [hout, List.append_assoc, List.singleton_append]

/-! ### Levels -/

/-- The names that are not listed yet, each where it first comes. -/
def fresh (listed names : List TypeName) : List TypeName :=
  (names.filter (· ∉ listed)).eraseDups

mutual

/-- The levels above a name. It is on level 0 itself; a level extends the one before by the
supertypes named there, without what is listed already. -/
def level (g : TypeGraph) (n : TypeName) : Nat → List TypeName
  | 0 => [n]
  | k + 1 => fresh (before g n k ++ level g n k) ((level g n k).flatMap g.supertypes)

/-- The levels before level `k`, one after the other. -/
def before (g : TypeGraph) (n : TypeName) : Nat → List TypeName
  | 0 => []
  | k + 1 => before g n k ++ level g n k

end

theorem fresh_cons_of_mem (h : n ∈ listed) : fresh listed (n :: names) = fresh listed names := by
  simp [fresh, h]

theorem fresh_cons_of_not_mem (h : n ∉ listed) :
    fresh listed (n :: names) = n :: fresh (n :: listed) names := by
  simp [fresh, h, List.eraseDups_cons, List.filter_filter, Bool.beq_eq_decide_eq]

theorem mem_fresh_iff : m ∈ fresh listed names ↔ m ∈ names ∧ m ∉ listed := by
  simp [fresh]

theorem before_succ (g : TypeGraph) (n : TypeName) (k : Nat) :
    g.before n (k + 1) = g.before n k ++ g.level n k := by
  rw [before]

theorem level_succ (g : TypeGraph) (n : TypeName) (k : Nat) :
    g.level n (k + 1) = fresh (g.before n (k + 1)) ((g.level n k).flatMap g.supertypes) := by
  rw [level, before_succ]

theorem mem_level_succ_iff : m ∈ g.level n (k + 1) ↔
    (∃ a ∈ g.level n k, g.Extends a m) ∧ m ∉ g.before n (k + 1) := by
  rw [level_succ, mem_fresh_iff, List.mem_flatMap]
  rfl

theorem before_succ_eq (g : TypeGraph) (n : TypeName) (k : Nat) :
    g.before n (k + 1) = n :: (List.range k).flatMap fun i => g.level n (i + 1) := by
  induction k with
  | zero => simp [before, level]
  | succ k ih =>
    rw [before_succ, ih, List.range_succ, List.flatMap_append, List.flatMap_singleton, List.cons_append]

/-! ### The walk, level by level -/

/-- Of the seen names only membership counts. -/
theorem walk_seen_congr (h : ∀ m, m ∈ seen' ↔ m ∈ seen) :
    g.walk seen' queue = g.walk seen queue := by
  fun_induction g.walk seen queue generalizing seen' with
  | case1 => rw [walk]
  | case2 seen n queue hn ih => rw [walk, if_pos ((h n).2 hn), ih h]
  | case3 seen n queue hn ih =>
    have marked : ∀ m, m ∈ n :: seen' ↔ m ∈ n :: seen := fun m => by simp [h]
    rw [walk, if_neg (mt (h n).1 hn), ih marked]

/-- The names that wait are listed before any that come to wait, as far as they are new. -/
theorem walk_append (g : TypeGraph) (seen queue later : List TypeName) :
    g.walk seen (queue ++ later) = fresh seen queue ++
      g.walk ((fresh seen queue).reverse ++ seen)
        (later ++ (fresh seen queue).flatMap g.supertypes) := by
  induction queue generalizing seen later with
  | nil => simp [fresh]
  | cons n queue ih =>
    rw [List.cons_append, walk]
    by_cases hn : n ∈ seen
    · rw [if_pos hn, fresh_cons_of_mem hn, ih]
    · rw [if_neg hn, fresh_cons_of_not_mem hn, List.append_assoc, ih]
      simp

/-- The step: what waits gives one level, and leaves the supertypes of that level waiting. -/
theorem walk_eq_fresh_append (g : TypeGraph) (seen queue : List TypeName) :
    g.walk seen queue = fresh seen queue ++
      g.walk (seen ++ fresh seen queue) ((fresh seen queue).flatMap g.supertypes) := by
  have front := walk_append g seen queue []
  rw [List.append_nil, List.nil_append] at front
  rw [front]
  refine congrArg _ (walk_seen_congr fun m => ?_)
  simp [or_comm]

/-- The run: once the levels before `k + 1` are listed, the walk goes on with what level `k`
extends. -/
theorem cons_ancestors_eq (g : TypeGraph) (n : TypeName) (k : Nat) :
    n :: g.ancestors n = g.before n (k + 1) ++
      g.walk (g.before n (k + 1)) ((g.level n k).flatMap g.supertypes) := by
  induction k with
  | zero => simp [before, level, ancestors]
  | succ k ih =>
    rw [ih, walk_eq_fresh_append, ← level_succ, ← List.append_assoc, ← before_succ]

theorem level_eq_nil_of_le (h : g.level n j = []) (hjk : j ≤ k) : g.level n k = [] := by
  induction k, hjk using Nat.le_induction with
  | base => exact h
  | succ k _ ih => simp [level_succ, ih, fresh]

theorem le_length_before (h : ∀ i, g.level n i ≠ []) (k : Nat) : k ≤ (g.before n k).length := by
  induction k with
  | zero => exact Nat.zero_le _
  | succ k ih =>
    have := List.length_pos_iff.2 (h k)
    rw [before_succ, List.length_append]
    omega

/-- The levels run out, since all of them together are listed by the walk. -/
theorem exists_level_eq_nil (g : TypeGraph) (n : TypeName) : ∃ k, g.level n (k + 1) = [] := by
  by_contra hlevels
  have all : ∀ i, g.level n i ≠ [] := by
    intro i
    cases i with
    | zero => simp [level]
    | succ i => exact fun hi => hlevels ⟨i, hi⟩
  have long := le_length_before all ((g.ancestors n).length + 2)
  have total : (g.before n ((g.ancestors n).length + 2)).length ≤ (g.ancestors n).length + 1 := by
    rw [← List.length_cons, cons_ancestors_eq, List.length_append]
    exact Nat.le_add_right _ _
  omega

theorem exists_depth (g : TypeGraph) (n : TypeName) : ∃ depth,
    (∀ k, depth < k → g.level n k = []) ∧
      g.ancestors n = (List.range depth).flatMap fun k => g.level n (k + 1) := by
  obtain ⟨depth, hnil⟩ := exists_level_eq_nil g n
  refine ⟨depth, fun k hk => level_eq_nil_of_le hnil hk, ?_⟩
  have whole := cons_ancestors_eq g n (depth + 1)
  rw [hnil, List.flatMap_nil, walk, List.append_nil, before_succ, hnil,
    List.append_nil, before_succ_eq] at whole
  exact (List.cons.inj whole).2

/-! ### Distance -/

/-- `k` declared steps lead from `a` up to a name. -/
inductive Steps (g : TypeGraph) (a : TypeName) : Nat → TypeName → Prop
  | none : Steps g a 0 a
  | next {k b c} (h : Steps g a k b) (hstep : g.Extends b c) : Steps g a (k + 1) c

theorem below_iff_exists_steps : g.Below a b ↔ ∃ k, g.Steps a k b := by
  constructor
  · intro h
    induction h with
    | refl => exact ⟨0, .none⟩
    | tail _ hstep ih =>
      obtain ⟨k, hk⟩ := ih
      exact ⟨k + 1, .next hk hstep⟩
  · rintro ⟨k, hk⟩
    induction hk with
    | none => exact .refl
    | next _ hstep ih => exact ih.tail hstep

/-- The fewest steps that lead from `a` up to `b`, where any do. -/
noncomputable def distance (g : TypeGraph) (a b : TypeName) : Nat :=
  sInf {k | g.Steps a k b}

theorem steps_of_mem_level (h : m ∈ g.level n k) : g.Steps n k m := by
  induction k generalizing m with
  | zero =>
    obtain rfl : m = n := by simpa [level] using h
    exact .none
  | succ k ih =>
    obtain ⟨⟨a, ha, hstep⟩, _⟩ := mem_level_succ_iff.1 h
    exact .next (ih ha) hstep

theorem mem_before_of_le (h : m ∈ g.before n j) (hjk : j ≤ k) : m ∈ g.before n k := by
  induction k, hjk using Nat.le_induction with
  | base => exact h
  | succ k _ ih =>
    rw [before_succ]
    exact List.mem_append_left _ ih

theorem mem_before_iff : m ∈ g.before n k ↔ ∃ i < k, m ∈ g.level n i := by
  induction k with
  | zero => simp [before]
  | succ k ih => rw [before_succ, List.mem_append, ih, Nat.exists_lt_succ_right]

/-- What a name of one level extends is on the next level or was listed before. -/
theorem mem_before_of_extends (ha : a ∈ g.level n k) (h : g.Extends a m) :
    m ∈ g.before n (k + 2) := by
  rw [before_succ, List.mem_append, mem_level_succ_iff]
  by_cases hm : m ∈ g.before n (k + 1)
  · exact .inl hm
  · exact .inr ⟨⟨a, ha, h⟩, hm⟩

/-- No name comes later than after as many levels as there are steps up to it. -/
theorem mem_before_of_steps (h : g.Steps n k m) : m ∈ g.before n (k + 1) := by
  induction h with
  | none => simp [before, level]
  | next _ hstep ih =>
    obtain ⟨i, hi, hb⟩ := mem_before_iff.1 ih
    exact mem_before_of_le (mem_before_of_extends hb hstep) (by omega)

/-- The levels do not overlap. -/
theorem not_mem_before_of_mem_level (h : m ∈ g.level n k) : m ∉ g.before n k := by
  cases k with
  | zero => simp [before]
  | succ k => exact (mem_level_succ_iff.1 h).2

/-- Level `k` holds the names at distance `k`. -/
theorem mem_level_iff : m ∈ g.level n k ↔ g.Below n m ∧ g.distance n m = k := by
  constructor
  · intro h
    have hk : g.Steps n k m := steps_of_mem_level h
    refine ⟨below_iff_exists_steps.2 ⟨k, hk⟩, le_antisymm (Nat.sInf_le hk) ?_⟩
    refine le_csInf ⟨k, hk⟩ fun j hj => ?_
    by_contra hlt
    exact not_mem_before_of_mem_level h (mem_before_of_le (mem_before_of_steps hj) (by omega))
  · rintro ⟨hbelow, rfl⟩
    have least : g.Steps n (g.distance n m) m := Nat.sInf_mem (below_iff_exists_steps.1 hbelow)
    obtain ⟨i, hi, hm⟩ := mem_before_iff.1 (mem_before_of_steps least)
    have le : g.distance n m ≤ i := Nat.sInf_le (steps_of_mem_level hm)
    obtain rfl : i = g.distance n m := by omega
    exact hm

theorem distance_of_mem_level (h : m ∈ g.level n k) : g.distance n m = k :=
  (mem_level_iff.1 h).2

theorem pairwise_ancestors (g : TypeGraph) (n : TypeName) :
    (g.ancestors n).Pairwise fun a b => g.distance n a ≤ g.distance n b := by
  obtain ⟨depth, _, hancestors⟩ := exists_depth g n
  rw [hancestors, List.pairwise_flatMap]
  constructor
  · intro k _
    refine List.pairwise_of_forall_mem_list fun a ha b hb => ?_
    rw [distance_of_mem_level ha, distance_of_mem_level hb]
  · refine List.pairwise_lt_range.imp fun {i j} hij a ha b hb => ?_
    rw [distance_of_mem_level ha, distance_of_mem_level hb]
    omega

/-! ### The ancestors -/

/-- A name that is declared nowhere extends nothing. -/
theorem supertypes_of_find?_eq_none (h : g.find? m = none) : g.supertypes m = [] := by
  rw [supertypes, h]

/-- CORRECT: on every graph, cyclic or not, the loop ends and lists the levels above a name one
after the other. These are the other names that declared steps lead to, each once, in the order of
their distance; a name that is not declared is listed like any other and leads to nothing. -/
theorem ancestors_breadthFirst (g : TypeGraph) (n : TypeName) :
    (∃ turns, (g.turn^[turns] ⟨[n], g.supertypes n, []⟩).queue = [] ∧
      (g.turn^[turns] ⟨[n], g.supertypes n, []⟩).out = g.ancestors n) ∧
    (∃ depth, (∀ k, depth < k → g.level n k = []) ∧
      g.ancestors n = (List.range depth).flatMap fun k => g.level n (k + 1)) ∧
    (∀ m, m ∈ g.ancestors n ↔ m ≠ n ∧ g.StrictlyBelow n m) ∧
    n ∉ g.ancestors n ∧ (g.ancestors n).Nodup ∧
    (g.ancestors n).Pairwise (fun a b => g.distance n a ≤ g.distance n b) ∧
    (∀ m k, m ∈ g.level n k ↔ g.Below n m ∧ g.distance n m = k) ∧
    ∀ m, g.find? m = none → (m ∈ g.ancestors n ↔ g.StrictlyBelow n m) ∧ g.ancestors m = [] := by
  have members : ∀ m, m ∈ g.ancestors n ↔ m ≠ n ∧ g.StrictlyBelow n m := by
    intro m
    rw [mem_ancestors_iff, below_iff]
    exact and_congr_right fun hm => or_iff_right hm
  refine ⟨⟨_, iterate_turn g [n] (g.supertypes n) []⟩, exists_depth g n, members, ?_, nodup_walk,
    pairwise_ancestors g n, fun m k => mem_level_iff, fun m hm => ⟨?_, ?_⟩⟩
  · simp [members]
  · rw [members]
    refine and_iff_right_of_imp ?_
    -- what is above something is not `n`, whose supertypes are declared
    rintro h rfl
    obtain ⟨s, hs, _⟩ := strictlyBelow_iff.1 h
    simp [supertypes_of_find?_eq_none hm] at hs
  · rw [ancestors, supertypes_of_find?_eq_none hm, walk]

/-- `B` waits twice, `A` and `D` are led to more than once, and `D` is not declared. -/
example : (⟨[{ name := ⟨"A"⟩, supertypes := [⟨"B"⟩, ⟨"C"⟩, ⟨"B"⟩] },
    { name := ⟨"B"⟩, supertypes := [⟨"D"⟩, ⟨"A"⟩] },
    { name := ⟨"C"⟩, supertypes := [⟨"E"⟩, ⟨"D"⟩] }]⟩ : TypeGraph).ancestors ⟨"A"⟩ =
      [⟨"B"⟩, ⟨"C"⟩, ⟨"D"⟩, ⟨"E"⟩] := by
  cbv

end TypeFamily.TypeGraph
