import Mathlib.Data.List.Nodup

/-!
Lists in which an entry is looked up by its key. Declarations, factories and implementations are all
held so; where no two entries have one key, a look-up tells membership, and the order of the entries
does not show in it.
-/

namespace TypeFamily.Keyed

variable {σ κ : Type} [DecidableEq κ] {key : σ → κ} {l l' l'' : List σ} {k : κ} {x : σ}

theorem find?_eq_none_iff : l.find? (key · = k) = none ↔ k ∉ l.map key := by
  simp

theorem mem_of_find?_eq_some (h : l.find? (key · = k) = some x) : x ∈ l ∧ key x = k :=
  ⟨List.mem_of_find?_eq_some h, by simpa using List.find?_some h⟩

theorem find?_eq_some_iff (hl : (l.map key).Nodup) :
    l.find? (key · = k) = some x ↔ x ∈ l ∧ key x = k := by
  refine ⟨mem_of_find?_eq_some, ?_⟩
  rintro ⟨hx, rfl⟩
  cases hf : l.find? (key · = key x) with
  | none => exact absurd (List.mem_map_of_mem hx) (find?_eq_none_iff.1 hf)
  | some y =>
    obtain ⟨hy, hyx⟩ := mem_of_find?_eq_some hf
    rw [List.inj_on_of_nodup_map hl hy hx hyx]

/-- Where no two entries have one key, the one that is found is all there is under its key. -/
theorem filter_eq_toList_find? (hl : (l.map key).Nodup) :
    l.filter (key · = k) = (l.find? (key · = k)).toList := by
  induction l with
  | nil => rfl
  | cons x l ih =>
    obtain ⟨hx, hl⟩ := List.nodup_cons.1 hl
    by_cases h : key x = k
    · subst h
      have others : l.filter (key · = key x) = [] := by
        rw [ih hl, find?_eq_none_iff.2 hx, Option.toList_none]
      simp [others]
    · simp only [List.filter_cons, List.find?_cons, h, decide_false]
      exact ih hl

/-- Entries with new keys may join at the end. -/
theorem nodup_append (hl : (l.map key).Nodup) (hl' : (l'.map key).Nodup)
    (new : ∀ y ∈ l', l.find? (key · = key y) = none) : ((l ++ l').map key).Nodup := by
  rw [List.map_append, List.nodup_append]
  refine ⟨hl, hl', ?_⟩
  rintro _ ha _ hb rfl
  obtain ⟨y, hy, rfl⟩ := List.mem_map.1 hb
  exact find?_eq_none_iff.1 (new y hy) ha

/-- Where no key comes twice, an entry is not found before its turn. -/
theorem find?_eq_none_of_nodup (h : ((l ++ l' ++ l'').map key).Nodup) (hx : x ∈ l') :
    l.find? (key · = key x) = none := by
  rw [List.map_append, List.map_append] at h
  obtain ⟨_, _, apart⟩ := List.nodup_append.1 h.of_append_left
  exact find?_eq_none_iff.2 fun hmem => apart _ hmem _ (List.mem_map_of_mem hx) rfl

theorem find?_perm (hl : (l.map key).Nodup) (h : l.Perm l') :
    l'.find? (key · = k) = l.find? (key · = k) := by
  have hl' : (l'.map key).Nodup := (h.map key).nodup_iff.1 hl
  refine Option.ext fun y => ?_
  rw [find?_eq_some_iff hl, find?_eq_some_iff hl', h.mem_iff]

/-- Lists whose entries correspond, each with its key, answer a look-up alike. -/
theorem find?_rel {R : σ → σ → Prop} (h : List.Forall₂ R l l')
    (hkey : ∀ x y, R x y → key x = key y) :
    Option.Rel R (l.find? (key · = k)) (l'.find? (key · = k)) := by
  induction h with
  | nil => exact .none
  | @cons x y l l' hxy _ ih =>
    by_cases hx : key x = k
    · have hy : key y = k := (hkey x y hxy).symm.trans hx
      simpa [hx, hy] using hxy
    · have hy : key y ≠ k := fun hy => hx ((hkey x y hxy).trans hy)
      simpa [hx, hy] using ih

end TypeFamily.Keyed
