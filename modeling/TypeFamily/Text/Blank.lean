/-!
White space as Unicode's White_Space property has it, and text with the white space taken off both
ends. Names of types are compared after trimming, so this is what two spellings of one name may
differ in.
-/

namespace TypeFamily.Text

/-- The characters that have Unicode's White_Space property. -/
def isBlank (c : Char) : Bool :=
  let n := c.toNat
  (0x9 ≤ n && n ≤ 0xD) || n == 0x20 || n == 0x85 || n == 0xA0 || n == 0x1680 ||
    (0x2000 ≤ n && n ≤ 0x200A) || n == 0x2028 || n == 0x2029 || n == 0x202F || n == 0x205F ||
    n == 0x3000

/-- Drops the blanks at both ends of a list of characters. -/
def trimChars (s : List Char) : List Char :=
  ((s.dropWhile isBlank).reverse.dropWhile isBlank).reverse

/-- Drops the blanks at both ends of a text. -/
def trim (s : String) : String :=
  String.ofList (trimChars s.toList)

/-- A text with nothing in it but blanks. -/
def isBlankText (s : String) : Bool :=
  (trim s).isEmpty

theorem toList_trim (s : String) : (trim s).toList = trimChars s.toList := by
  simp [trim]

/-! ### Texts with blanks around them -/

variable {s a b : List Char}

/-- Blanks around a text are not seen after trimming. -/
theorem trimChars_append (ha : ∀ c ∈ a, isBlank c) (hb : ∀ c ∈ b, isBlank c) :
    trimChars (a ++ s ++ b) = trimChars s := by
  have front : (a ++ s ++ b).dropWhile isBlank = (s ++ b).dropWhile isBlank := by
    rw [List.append_assoc, List.dropWhile_append_of_pos ha]
  rw [trimChars, trimChars, front, List.dropWhile_append]
  -- where `s` is all blanks, the front trimming runs on through `b`
  cases hs : s.dropWhile isBlank with
  | nil =>
    have all : b.dropWhile isBlank = [] := by
      rw [← List.append_nil b, List.dropWhile_append_of_pos hb, List.dropWhile_nil]
    simp [all]
  | cons c cs =>
    have back : ∀ c ∈ b.reverse, isBlank c := fun c hc => hb c (List.mem_reverse.1 hc)
    rw [List.isEmpty_cons, if_neg Bool.false_ne_true, List.reverse_append,
      List.dropWhile_append_of_pos back]

/-- Trimming takes away blanks only. -/
theorem exists_eq_append_trimChars (s : List Char) : ∃ a b,
    s = a ++ trimChars s ++ b ∧ (∀ c ∈ a, isBlank c) ∧ ∀ c ∈ b, isBlank c := by
  have blank : ∀ (t : List Char), ∀ c ∈ t.takeWhile isBlank, isBlank c := fun t =>
    List.all_eq_true.1 List.all_takeWhile
  refine ⟨s.takeWhile isBlank, ((s.dropWhile isBlank).reverse.takeWhile isBlank).reverse, ?_,
    blank s, fun c hc => blank _ c (List.mem_reverse.1 hc)⟩
  rw [trimChars, List.append_assoc, ← List.reverse_append, List.takeWhile_append_dropWhile,
    List.reverse_reverse, List.takeWhile_append_dropWhile]

theorem trimChars_trimChars (s : List Char) : trimChars (trimChars s) = trimChars s := by
  obtain ⟨a, b, hs, ha, hb⟩ := exists_eq_append_trimChars s
  calc trimChars (trimChars s)
      = trimChars (a ++ trimChars s ++ b) := (trimChars_append ha hb).symm
    _ = trimChars s := by rw [← hs]

@[simp] theorem trim_trim (s : String) : trim (trim s) = trim s := by
  rw [trim, toList_trim, trimChars_trimChars, trim]

@[simp] theorem isBlankText_trim (s : String) : isBlankText (trim s) = isBlankText s := by
  rw [isBlankText, trim_trim, isBlankText]

/-- The texts are one text, but for blanks at their ends. -/
def SameInside (s s' : String) : Prop :=
  ∃ a b a' b' core : List Char, s.toList = a ++ core ++ b ∧ s'.toList = a' ++ core ++ b' ∧
    ∀ c ∈ a ++ b ++ (a' ++ b'), isBlank c

/-- Trimming tells whether two texts differ in blanks at their ends only. -/
theorem sameInside_iff {s s' : String} : SameInside s s' ↔ trim s = trim s' := by
  constructor
  · rintro ⟨a, b, a', b', core, hs, hs', hblank⟩
    simp only [List.forall_mem_append] at hblank
    obtain ⟨⟨ha, hb⟩, ha', hb'⟩ := hblank
    rw [trim, trim, hs, hs', trimChars_append ha hb, trimChars_append ha' hb']
  · intro h
    obtain ⟨a, b, hs, ha, hb⟩ := exists_eq_append_trimChars s.toList
    obtain ⟨a', b', hs', ha', hb'⟩ := exists_eq_append_trimChars s'.toList
    rw [← toList_trim, ← h, toList_trim] at hs'
    refine ⟨a, b, a', b', trimChars s.toList, hs, hs', ?_⟩
    simp only [List.forall_mem_append]
    exact ⟨⟨ha, hb⟩, ha', hb'⟩

end TypeFamily.Text
