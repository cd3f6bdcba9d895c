import TypeFamily.Text.Hex
import TypeFamily.Text.Inspect
import TypeFamily.Text.Json

/-!
What a text in double quotes reads as. A character stands there for itself, unless it is a quote or
a backslash; after a backslash stands a letter or the number of a character, in four digits or
between braces. No quoted text can be read in two ways, and what inspection and JSON write reads as
what was written, whatever the text.
-/

namespace TypeFamily.Text

/-- The character that a letter stands for after a backslash. -/
def letter? : Char → Option Char
  | '"' => some '"'
  | '\\' => some '\\'
  | 'n' => some '\n'
  | 'r' => some '\r'
  | 't' => some '\t'
  | 'b' => some '\x08'
  | 'f' => some '\x0c'
  | '0' => some '\x00'
  | _ => none

/-- The character whose number hexadecimal digits spell. -/
def coded? (digits : List Char) : Option Char :=
  (digits.mapM hexValue?).bind charOfHexValues?

/-- Takes the first character from between quotes, and leaves what follows it. -/
def takeChar? : List Char → Option (Char × List Char)
  | '\\' :: 'u' :: '\x7b' :: cs =>
    (coded? (cs.takeWhile (· ≠ '\x7d'))).map fun c => (c, (cs.dropWhile (· ≠ '\x7d')).drop 1)
  | '\\' :: 'u' :: a :: b :: c :: d :: cs => (coded? [a, b, c, d]).map fun x => (x, cs)
  | '\\' :: c :: cs => (letter? c).map fun x => (x, cs)
  | c :: cs => if c = '"' ∨ c = '\\' then none else some (c, cs)
  | [] => none

/-- The characters up to a closing quote stand for others. -/
inductive StandsFor : List Char → List Char → Prop
  | close : StandsFor ['"'] []
  | char {q rest cs : List Char} {c : Char} (h : takeChar? q = some (c, rest))
    (hrest : StandsFor rest cs) : StandsFor q (c :: cs)

/-- A text that begins with a double quote reads as `s`. -/
def ReadsAs (q s : String) : Prop :=
  ∃ cs, q.toList = '"' :: cs ∧ StandsFor cs s.toList

variable {q cs cs' rest : List Char} {c : Char}

theorem StandsFor.unique (h : StandsFor q cs) (h' : StandsFor q cs') : cs = cs' := by
  induction h generalizing cs' with
  | close =>
    cases h' with
    | close => rfl
    | char htake _ => simp [takeChar?] at htake
  | char htake _ ih =>
    cases h' with
    | close => simp [takeChar?] at htake
    | char htake' hrest' =>
      rw [htake] at htake'
      obtain ⟨rfl, rfl⟩ := Prod.mk.inj (Option.some.inj htake')
      rw [ih hrest']

theorem ReadsAs.unique {t s s' : String} (h : ReadsAs t s) (h' : ReadsAs t s') : s = s' := by
  obtain ⟨cs, hcs, hs⟩ := h
  obtain ⟨cs', hcs', hs'⟩ := h'
  obtain rfl : cs = cs' := (List.cons.inj (hcs.symm.trans hcs')).2
  exact String.toList_inj.1 (hs.unique hs')

/-- Characters that are written so that each can be taken again stand for themselves. -/
theorem standsFor_flatMap {write : Char → List Char}
    (h : ∀ c rest, takeChar? (write c ++ rest) = some (c, rest)) (cs : List Char) :
    StandsFor (cs.flatMap write ++ ['"']) cs := by
  induction cs with
  | nil => exact .close
  | cons c cs ih =>
    rw [List.flatMap_cons, List.append_assoc]
    exact .char (h c _) ih

theorem readsAs_ofList {write : Char → List Char}
    (h : ∀ c rest, takeChar? (write c ++ rest) = some (c, rest)) (s : String) :
    ReadsAs (String.ofList ('"' :: s.toList.flatMap write ++ ['"'])) s :=
  ⟨s.toList.flatMap write ++ ['"'], String.toList_ofList, standsFor_flatMap h s.toList⟩

/-! ### Numbers of characters -/

theorem hexValue?_digitChar : ∀ d < 16, hexValue? (Nat.digitChar d) = some d := by decide

/-- The digits of a number spell it. -/
theorem exists_hexValues (n : Nat) : ∃ values, (Nat.toDigits 16 n).mapM hexValue? = some values ∧
    ofHexValues values = n := by
  induction n using Nat.strongRecOn with
  | _ n ih =>
    by_cases hn : n < 16
    · rw [Nat.toDigits_of_lt_base hn]
      exact ⟨[n], by simp [hexValue?_digitChar n hn], by simp [ofHexValues]⟩
    · obtain ⟨values, hvalues, hspelled⟩ := ih (n / 16) (by omega)
      rw [Nat.toDigits_of_base_le (by omega) (by omega)]
      refine ⟨values ++ [n % 16], ?_, ?_⟩
      · rw [List.mapM_append, hvalues]
        simp [hexValue?_digitChar (n % 16) (by omega)]
      · rw [ofHexValues, List.foldl_append]
        rw [ofHexValues] at hspelled
        rw [hspelled]
        exact Nat.div_add_mod n 16

theorem coded?_toDigits (c : Char) : coded? (Nat.toDigits 16 c.toNat) = some c := by
  obtain ⟨values, hvalues, hspelled⟩ := exists_hexValues c.toNat
  have valid : c.toNat.isValidChar := c.valid
  rw [coded?, hvalues, Option.bind_some, charOfHexValues?, hspelled, if_pos valid,
    Char.ofNat_toNat]

theorem coded?_zero (digits : List Char) : coded? ('0' :: digits) = coded? digits := by
  have zero : hexValue? '0' = some 0 := by decide
  rw [coded?, coded?, List.mapM_cons, zero]
  cases digits.mapM hexValue? with
  | none => rfl
  | some values => rfl

theorem ne_brace_of_mem_toDigits {n : Nat} (h : c ∈ Nat.toDigits 16 n) : c ≠ '\x7d' := by
  have digit : ∀ d < 16, Nat.digitChar d ≠ '\x7d' := by decide
  induction n using Nat.strongRecOn with
  | _ n ih =>
    by_cases hn : n < 16
    · rw [Nat.toDigits_of_lt_base hn, List.mem_singleton] at h
      exact h ▸ digit n hn
    · rw [Nat.toDigits_of_base_le (by omega) (by omega), List.mem_append,
        List.mem_singleton] at h
      rcases h with h | rfl
      · exact ih (n / 16) (by omega) h
      · exact digit (n % 16) (by omega)

/-! ### What is written -/

theorem takeChar?_self (hquote : c ≠ '"') (hslash : c ≠ '\\') :
    takeChar? (c :: rest) = some (c, rest) := by
  unfold takeChar?
  split <;> simp_all

theorem takeChar?_braced (c : Char) (rest : List Char) :
    takeChar? ('\\' :: 'u' :: '\x7b' :: (Nat.toDigits 16 c.toNat ++ '\x7d' :: rest)) =
      some (c, rest) := by
  have digits : ∀ d ∈ Nat.toDigits 16 c.toNat, decide (d ≠ '\x7d') = true := fun d hd =>
    decide_eq_true (ne_brace_of_mem_toDigits hd)
  simp only [takeChar?, List.takeWhile_append_of_pos digits,
    List.dropWhile_append_of_pos digits]
  simp [coded?_toDigits]

theorem takeChar?_inspect (c : Char) (rest : List Char) :
    takeChar? (Inspect.char c ++ rest) = some (c, rest) := by
  unfold Inspect.char
  split
  case h_7 hquote hslash _ _ _ _ =>
    split
    · simpa using takeChar?_braced c rest
    · exact takeChar?_self hquote hslash
  -- each of the others is a letter after a backslash
  all_goals rfl

theorem takeChar?_json (c : Char) (rest : List Char) :
    takeChar? (Json.char c ++ rest) = some (c, rest) := by
  unfold Json.char
  split
  case h_8 hquote hslash _ _ _ _ _ =>
    have spelled := coded?_toDigits c
    split
    case isTrue hn =>
      rw [Nat.toDigits_of_lt_base hn] at spelled ⊢
      simp [takeChar?, coded?_zero, spelled]
    · split
      case isTrue hn =>
        rw [Nat.toDigits_of_base_le (by omega) (by omega),
          Nat.toDigits_of_lt_base (by omega)] at spelled ⊢
        simp only [List.singleton_append] at spelled
        simp [takeChar?, coded?_zero, spelled]
      · exact takeChar?_self hquote hslash
  -- as above, letters
  all_goals rfl

theorem readsAs_inspect (s : String) : ReadsAs (Inspect.quoted s) s :=
  readsAs_ofList takeChar?_inspect s

/-- What inspection writes in quotes reads as the text that was written, and as no other. -/
theorem readsAs_inspect_iff {s t : String} : ReadsAs (Inspect.quoted t) s ↔ s = t := by
  constructor
  · intro h
    exact h.unique (readsAs_inspect t)
  · rintro rfl
    exact readsAs_inspect s

theorem readsAs_json (s : String) : ReadsAs (Json.quoted s) s :=
  readsAs_ofList takeChar?_json s

/-- What JSON writes in quotes reads as the text that was written, and as no other. -/
theorem readsAs_json_iff {s t : String} : ReadsAs (Json.quoted t) s ↔ s = t := by
  constructor
  · intro h
    exact h.unique (readsAs_json t)
  · rintro rfl
    exact readsAs_json s

end TypeFamily.Text
