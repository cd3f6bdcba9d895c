import TypeFamily.Proofs.Toml.Quoted
import TypeFamily.Toml.Block
import TypeFamily.Toml.Literal

/-!
A field is read back as the value it holds: a text, a truth value, or an array of texts on one line
or over several.
-/

namespace TypeFamily.Toml

variable {cs rest next : List Char} {s : String} {ss : List String} {depth : Nat}

/-- What a field holds, as a value. -/
def Field.value : Field → Value
  | text s => .text s
  | flag b => .boolean b
  | texts ss => .array (ss.map .text)

/-! ### Texts -/

/-- A text begins with a quote. -/
theorem exists_quote_eq (s : String) : ∃ q w, quote s = q :: w ∧ (q = '"' ∨ q = '\x27') := by
  unfold quote
  cases Form.choose s.toList with
  | basic => exact ⟨'"', _, rfl, .inl rfl⟩
  | literal => exact ⟨'\x27', _, rfl, .inr rfl⟩
  | basicLines => exact ⟨'"', _, rfl, .inl rfl⟩
  | literalLines => exact ⟨'\x27', _, rfl, .inr rfl⟩

theorem skipSpaces_quote (s : String) (rest : List Char) :
    skipSpaces (quote s ++ rest) = quote s ++ rest := by
  obtain ⟨q, w, heq, rfl | rfl⟩ := exists_quote_eq s <;> (rw [heq]; rfl)

theorem skipTrivia_quote (s : String) (rest : List Char) :
    skipTrivia false (quote s ++ rest) = quote s ++ rest := by
  obtain ⟨q, w, heq, rfl | rfl⟩ := exists_quote_eq s <;> (rw [heq]; rfl)

theorem value_quote (depth : Nat) (hrest : Unquoted rest) :
    value depth (quote s ++ rest) = some (.text s, rest) := by
  have hscalar : scalar (quote s ++ rest) = some (.text s, rest) := by
    have hread := quoted_quote s hrest
    obtain ⟨q, w, heq, rfl | rfl⟩ := exists_quote_eq s
    all_goals
      rw [heq, List.cons_append] at hread ⊢
      rw [scalar, hread]
      · rfl
      all_goals simp
  cases depth with
  | zero => exact hscalar
  | succ depth =>
    rw [← hscalar]
    obtain ⟨q, w, heq, rfl | rfl⟩ := exists_quote_eq s <;> (rw [heq]; rfl)

/-! ### Arrays -/

section Separated

variable {α : Type} {item : Reader α} {separator? : List Char → Option (List Char)} {x : α}

theorem separated_one (hitem : item cs = some (x, rest)) (hlast : separator? rest = none) :
    separated item separator? cs = some ([x], rest) := by
  rw [separated, hitem]
  simp only [hlast]

theorem separated_more (hitem : item cs = some (x, rest)) (hmore : separator? rest = some next)
    (hlt : next.length < cs.length) :
    separated item separator? cs =
      (separated item separator? next).map fun (xs, rest) => (x :: xs, rest) := by
  rw [separated, hitem]
  simp only [hmore, if_pos hlt]

end Separated

theorem length_skipTrivia_le (inComment : Bool) (cs : List Char) :
    (skipTrivia inComment cs).length ≤ cs.length := by
  fun_induction skipTrivia inComment cs <;> grind

/-- An item of an array with what stands around it. -/
def spacedItem (depth : Nat) : Reader Value := fun cs =>
  (value depth (skipTrivia false cs)).map fun (v, rest) => (v, skipTrivia false rest)

/-- An array ends after its last item, or after a comma that its last item has. -/
def Ends (rest last : List Char) : Prop :=
  last = ']' :: rest ∨ ∃ next, last = ',' :: next ∧ skipTrivia false next = ']' :: rest

theorem arrayBody_of_separated {items : List Value} {last : List Char}
    (hopen : (skipTrivia false cs).head? ≠ some ']')
    (hitems : separated (spacedItem depth) itemComma? (skipTrivia false cs) = some (items, last))
    (hlast : Ends rest last) : arrayBody (value depth) cs = some (items, rest) := by
  unfold arrayBody
  dsimp only
  split
  · next heq => simp [heq] at hopen
  · show (separated (spacedItem depth) _ _).bind _ = _
    rw [hitems]
    rcases hlast with rfl | ⟨next, rfl, hclose⟩
    · rfl
    · show (char? ']' (skipTrivia false next)).map _ = _
      rw [hclose]
      rfl

theorem spacedItem_quote (hcs : skipTrivia false cs = quote s ++ rest) (hrest : Unquoted rest) :
    spacedItem depth cs = some (.text s, skipTrivia false rest) := by
  rw [spacedItem, hcs, value_quote depth hrest]
  rfl

theorem head?_quote_ne (s : String) (rest : List Char) : (quote s ++ rest).head? ≠ some ']' := by
  obtain ⟨q, w, heq, rfl | rfl⟩ := exists_quote_eq s <;> simp [heq]

theorem arrayBody_quote (s : String) (rest : List Char) :
    arrayBody (value depth) (quote s ++ ']' :: rest) = some ([.text s], rest) := by
  have hitem : spacedItem depth (quote s ++ ']' :: rest) = some (.text s, ']' :: rest) :=
    spacedItem_quote (skipTrivia_quote s _) (by simp [Unquoted])
  refine arrayBody_of_separated ?_ ?_ (.inl rfl)
  · rw [skipTrivia_quote]
    exact head?_quote_ne s _
  · rw [skipTrivia_quote]
    exact separated_one hitem rfl

theorem skipTrivia_itemLine (s : String) (rest : List Char) :
    skipTrivia false ('\n' :: (itemLine s ++ rest)) = quote s ++ ',' :: '\n' :: rest := by
  have hitem : '\n' :: (itemLine s ++ rest) =
      '\n' :: ' ' :: ' ' :: ' ' :: ' ' :: (quote s ++ ',' :: '\n' :: rest) := by
    simp [itemLine]
  rw [hitem]
  exact skipTrivia_quote s _

/-- Texts that stand on a line each are read one by one; the comma after the last separates it
from nothing. -/
theorem separated_itemLines (s : String) (ss : List String) (rest : List Char)
    (hcs : skipTrivia false cs = quote s ++ ',' :: '\n' :: (ss.flatMap itemLine ++ ']' :: rest)) :
    separated (spacedItem depth) itemComma? cs =
      some ((s :: ss).map .text, ',' :: '\n' :: ']' :: rest) := by
  have hitem : spacedItem depth cs =
      some (.text s, ',' :: '\n' :: (ss.flatMap itemLine ++ ']' :: rest)) :=
    spacedItem_quote hcs (by simp [Unquoted])
  induction ss generalizing s cs with
  | nil => exact separated_one hitem rfl
  | cons s' ss ih =>
    rw [List.flatMap_cons, List.append_assoc] at hitem hcs
    have hnext := skipTrivia_itemLine s' (ss.flatMap itemLine ++ ']' :: rest)
    have hmore : itemComma? (',' :: '\n' :: (itemLine s' ++ (ss.flatMap itemLine ++ ']' :: rest))) =
        some ('\n' :: (itemLine s' ++ (ss.flatMap itemLine ++ ']' :: rest))) := by
      rw [itemComma?, hnext, if_neg (head?_quote_ne s' _)]
    have hlt := length_skipTrivia_le false cs
    rw [hcs, List.length_append, List.length_cons] at hlt
    rw [separated_more hitem hmore (by omega), ih s' hnext]
    · rfl
    · exact spacedItem_quote hnext (by simp [Unquoted])

theorem arrayBody_itemLines (s : String) (ss : List String) (rest : List Char) :
    arrayBody (value depth) ('\n' :: ((s :: ss).flatMap itemLine ++ ']' :: rest)) =
      some ((s :: ss).map .text, rest) := by
  have hfront : skipTrivia false ('\n' :: ((s :: ss).flatMap itemLine ++ ']' :: rest)) =
      quote s ++ ',' :: '\n' :: (ss.flatMap itemLine ++ ']' :: rest) := by
    rw [List.flatMap_cons, List.append_assoc]
    exact skipTrivia_itemLine s _
  have hlast : Ends rest (',' :: '\n' :: ']' :: rest) := .inr ⟨_, rfl, rfl⟩
  refine arrayBody_of_separated ?_ ?_ hlast
  · rw [hfront]
    exact head?_quote_ne s _
  · rw [hfront]
    exact separated_itemLines s ss rest (skipTrivia_quote s _)

/-! ### Fields -/

/-- CORRECT: a field is read as the value that it holds. -/
theorem value_write (f : Field) (hrest : Unquoted rest) :
    value (depth + 1) (f.write ++ rest) = some (f.value, rest) := by
  cases f with
  | text s => exact value_quote (depth + 1) hrest
  | flag b => cases b <;> rfl
  | texts ss =>
    match ss with
    | [] => rfl
    | [s] =>
      show (arrayBody (value depth) (quote s ++ [']'] ++ rest)).map _ = _
      rw [List.append_assoc, List.singleton_append, arrayBody_quote]
      rfl
    | s :: s' :: ss =>
      show (arrayBody (value depth)
        ('\n' :: ((s :: s' :: ss).flatMap itemLine ++ [']'] ++ rest))).map _ = _
      rw [List.append_assoc, List.singleton_append, arrayBody_itemLines]
      rfl

end TypeFamily.Toml
