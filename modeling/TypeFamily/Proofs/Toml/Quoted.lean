import TypeFamily.Toml.Quoted.Reader
import TypeFamily.Toml.Quoted.Writer

/-!
A text is read back as it was written, whichever of the four forms it was written in.

Two things need care. Quotes at the end of a text over several lines run into the three that close
it; since a text in such a form never has three in a row, the reader meets three in a row only when
nothing but quotes is left, and `closeLines` gives those back. And the first line feed after three
opening quotes is dropped, so one is written in front of every text with a line feed in it.
-/

namespace TypeFamily.Toml

variable {c q : Char} {cs s rest tail : List Char} {run n k : Nat}

/-- Nothing follows that could be taken for one more quote of a text before it. -/
def Unquoted (rest : List Char) : Prop :=
  rest.head? ≠ some '"' ∧ rest.head? ≠ some '\x27'

/-! ### One character -/

theorem hexValue?_digit : ∀ d < 16, Text.hexValue? (Nat.digitChar d).toUpper = some d := by decide

/-- Two digits and two zeros before them spell a code point below 256. -/
theorem codePoint?_byteDigits (hn : n < 256) :
    codePoint? 4 ('0' :: '0' :: byteDigits n ++ cs) = some (Char.ofNat n) := by
  have zero : Text.hexValue? '0' = some 0 := by decide
  have high := hexValue?_digit (n / 16) (by omega)
  have low := hexValue?_digit (n % 16) (by omega)
  have spelled : 16 * (n / 16) + n % 16 = n := Nat.div_add_mod n 16
  have valid : n.isValidChar := Or.inl (by omega)
  simp [codePoint?, byteDigits, zero, high, low, Text.charOfHexValues?, Text.ofHexValues, spelled,
    valid]

theorem toNat_lt_of_isPlain_eq_false (h : isPlain c = false) : c.toNat < 256 := by
  simp only [isPlain, Bool.or_eq_false_iff, Bool.and_eq_false_iff, decide_eq_false_iff_not] at h
  omega

/-- A basic text shows a character as it is, or by a backslash and an escape that stands for it and
is not taken for the end of a line. -/
theorem escape_cases (c : Char) :
    (escape c = [c] ∧ isPlain c ∧ c ≠ '"' ∧ c ≠ '\\') ∨
      ∃ e, escape c = '\\' :: e ∧
        ∀ rest, escaped? (e ++ rest) = some (c, e.length) ∧ continued? (e ++ rest) = none := by
  unfold escape
  split
  -- seven characters have an escape of their own; any other is plain or is given by its digits
  case h_8 _ _ _ _ _ _ hquote hslash =>
    split
    case isTrue hplain => exact .inl ⟨rfl, hplain, hquote, hslash⟩
    case isFalse hplain =>
      refine .inr ⟨_, rfl, fun rest => ⟨?_, rfl⟩⟩
      have hlt := toNat_lt_of_isPlain_eq_false (Bool.eq_false_iff.2 hplain)
      show (codePoint? 4 ('0' :: '0' :: byteDigits c.toNat ++ rest)).map (·, 5) = _
      rw [codePoint?_byteDigits hlt, Char.ofNat_toNat]
      rfl
  all_goals exact .inr ⟨_, rfl, fun rest => ⟨rfl, rfl⟩⟩

theorem ne_of_isPlain (h : isPlain c) : c ≠ '\n' ∧ c ≠ '\r' := by
  constructor <;> (rintro rfl; simp [isPlain] at h)

theorem newline?_of_isPlain (h : isPlain c) : newline? (c :: cs) = none := by
  obtain ⟨hfeed, hreturn⟩ := ne_of_isPlain h
  unfold newline?
  split <;> simp_all

theorem newline?_escape (c : Char) (cs : List Char) : newline? (escape c ++ cs) = none := by
  rcases escape_cases c with ⟨heq, hplain, -⟩ | ⟨e, heq, -⟩
  · rw [heq]
    exact newline?_of_isPlain hplain
  · rw [heq]
    rfl

theorem head?_escape_ne (c : Char) (cs : List Char) : (escape c ++ cs).head? ≠ some '"' := by
  rcases escape_cases c with ⟨heq, -, hquote, -⟩ | ⟨e, heq, -⟩
  · simpa [heq] using hquote
  · simp [heq]

/-! ### Texts on one line -/

theorem basicBody_escape (c : Char) (cs : List Char) :
    basicBody (escape c ++ cs) = before c (basicBody cs) := by
  rcases escape_cases c with ⟨heq, hplain, hquote, hslash⟩ | ⟨e, heq, hread⟩
  · rw [heq, List.singleton_append, basicBody, if_pos hplain] <;> assumption
  · rw [heq, List.cons_append, basicBody]
    simp [(hread cs).1]

theorem basicBody_flatMap_escape (s rest : List Char) :
    basicBody (s.flatMap escape ++ '"' :: rest) = some (s, rest) := by
  induction s with
  | nil => rw [List.flatMap_nil, List.nil_append, basicBody]
  | cons c s ih =>
    rw [List.flatMap_cons, List.append_assoc, basicBody_escape, ih]
    rfl

theorem literalBody_append (hs : ∀ c ∈ s, isPlain c ∧ c ≠ '\x27') (rest : List Char) :
    literalBody (s ++ '\x27' :: rest) = some (s, rest) := by
  induction s with
  | nil => rw [List.nil_append, literalBody]
  | cons c s ih =>
    obtain ⟨⟨hplain, hquote⟩, hs⟩ := List.forall_mem_cons.1 hs
    rw [List.cons_append, literalBody, if_pos hplain, ih hs]
    · rfl
    · exact hquote

/-! ### The end of a text over several lines -/

/-- Three quotes are next. -/
def Closes (q : Char) (cs : List Char) : Prop :=
  List.replicate 3 q <+: cs

theorem closes_cons (q : Char) (cs : List Char) : Closes q (q :: q :: q :: cs) :=
  ⟨cs, rfl⟩

/-- After `run` quotes it takes that many fewer to make three. -/
theorem front_of_closes (hrun : run ≤ 2) (h : Closes q cs) :
    List.replicate (2 - run + 1) q <+: cs := by
  refine List.IsPrefix.trans ⟨List.replicate run q, ?_⟩ h
  rw [List.replicate_append_replicate]
  congr 1
  omega

/-- Quotes at the end of a text cannot be told from those that close it. -/
theorem replicate_append_close (q : Char) (k : Nat) (rest : List Char) :
    List.replicate k q ++ q :: q :: q :: rest = q :: q :: q :: (List.replicate k q ++ rest) := by
  show List.replicate k q ++ (List.replicate 3 q ++ rest) =
    List.replicate 3 q ++ (List.replicate k q ++ rest)
  rw [← List.append_assoc, ← List.append_assoc, List.replicate_append_replicate,
    List.replicate_append_replicate, Nat.add_comm]

theorem closeLines_replicate (hk : k ≤ 2) (hrest : rest.head? ≠ some q) :
    closeLines q (List.replicate k q ++ rest) = (List.replicate k q, rest) := by
  match k, rest with
  | 0, [] => rfl
  | 0, [c] => simp_all [closeLines]
  | 0, c :: d :: cs => simp_all [closeLines]
  | 1, [] => simp [closeLines]
  | 1, c :: cs => simp_all [closeLines]
  | 2, _ => simp [closeLines]

theorem basicLinesBody_close (hk : k ≤ 2) (hrest : rest.head? ≠ some '"') :
    basicLinesBody (List.replicate k '"' ++ '"' :: '"' :: '"' :: rest) =
      some (List.replicate k '"', rest) := by
  rw [replicate_append_close, basicLinesBody, closeLines_replicate hk hrest]

theorem literalLinesBody_close (hk : k ≤ 2) (hrest : rest.head? ≠ some '\x27') :
    literalLinesBody (List.replicate k '\x27' ++ '\x27' :: '\x27' :: '\x27' :: rest) =
      some (List.replicate k '\x27', rest) := by
  rw [replicate_append_close, literalLinesBody, closeLines_replicate hk hrest]

/-! ### Basic texts over several lines -/

theorem basicLinesBody_escape (c : Char) (cs : List Char) :
    basicLinesBody (escape c ++ cs) = before c (basicLinesBody cs) := by
  rcases escape_cases c with ⟨heq, hplain, hquote, hslash⟩ | ⟨e, heq, hread⟩
  · obtain ⟨hfeed, hreturn⟩ := ne_of_isPlain hplain
    rw [heq, List.singleton_append, basicLinesBody, if_pos hplain]
    · exact fun _ h => absurd h hquote
    · exact hslash
    · exact hfeed
    · exact fun _ h => absurd h hreturn
  · obtain ⟨hescaped, hcontinued⟩ := hread cs
    rw [heq, List.cons_append, basicLinesBody]
    split
    · next hsome => rw [hcontinued] at hsome; cases hsome
    · simp [hescaped]

theorem basicLinesBody_quote (h : ¬ Closes '"' ('"' :: cs)) :
    basicLinesBody ('"' :: cs) = before '"' (basicLinesBody cs) := by
  rw [basicLinesBody]
  · rfl
  · rintro cs - rfl
    exact h (closes_cons '"' cs)
  all_goals simp

theorem escapeLines_replicate (h : k + run ≤ 2) :
    escapeLines run (List.replicate k '"') = List.replicate k '"' := by
  induction k generalizing run with
  | zero => rfl
  | succ k ih =>
    have hne : run ≠ 2 := by omega
    rw [List.replicate_succ, escapeLines, if_neg hne, ih (by omega)]

/-- As many quotes as would make three with those before come first only where nothing but quotes,
and fewer of them, is left of the text. -/
theorem escapeLines_front (run : Nat) (s : List Char) (hn : n + run = 2)
    (h : List.replicate (n + 1) '"' <+: escapeLines run s ++ tail) :
    ∃ k ≤ n, s = List.replicate k '"' := by
  rw [List.replicate_succ] at h
  fun_induction escapeLines run s generalizing n with
  | case1 run => exact ⟨0, Nat.zero_le n, rfl⟩
  | case2 run cs ih => simp at h
  | case3 cs ih => simp at h
  | case4 run cs hne ih =>
    obtain ⟨m, rfl⟩ : ∃ m, n = m + 1 := ⟨1 - run, by omega⟩
    rw [List.cons_append, List.cons_prefix_cons, List.replicate_succ] at h
    obtain ⟨k, hk, rfl⟩ := ih (by omega) h.2
    exact ⟨k + 1, by omega, rfl⟩
  | case5 run c cs hfeed hquote ih =>
    obtain ⟨l, hl⟩ := h
    rw [List.append_assoc] at hl
    exact absurd (congrArg List.head? hl.symm) (head?_escape_ne c _)

theorem newline?_escapeLines (h : '\n' ∉ s) :
    newline? (escapeLines run s ++ '"' :: cs) = none := by
  unfold escapeLines
  split
  · rfl
  · exact absurd List.mem_cons_self h
  · split <;> rfl
  · rw [List.append_assoc]
    exact newline?_escape _ _

theorem basicLinesBody_of_closes (hrun : run ≤ 2) (hrest : rest.head? ≠ some '"')
    (h : Closes '"' (escapeLines run s ++ '"' :: '"' :: '"' :: rest)) :
    basicLinesBody (escapeLines run s ++ '"' :: '"' :: '"' :: rest) = some (s, rest) := by
  obtain ⟨k, hk, rfl⟩ := escapeLines_front run s (by omega) (front_of_closes hrun h)
  rw [escapeLines_replicate (by omega), basicLinesBody_close (by omega) hrest]

theorem basicLinesBody_escapeLines (hrun : run ≤ 2) (hrest : rest.head? ≠ some '"') :
    basicLinesBody (escapeLines run s ++ '"' :: '"' :: '"' :: rest) = some (s, rest) := by
  induction s generalizing run with
  | nil => exact basicLinesBody_close (Nat.zero_le 2) hrest
  | cons c s ih =>
    by_cases hclose : Closes '"' (escapeLines run (c :: s) ++ '"' :: '"' :: '"' :: rest)
    · exact basicLinesBody_of_closes hrun hrest hclose
    · -- otherwise the reader takes one character, as the writer gave it, and the run goes on or ends
      by_cases hfeed : c = '\n'
      · subst hfeed
        rw [escapeLines, List.cons_append, basicLinesBody, ih (Nat.zero_le 2)]
        rfl
      by_cases hquote : c = '"'
      · subst hquote
        rw [escapeLines] at hclose ⊢
        split at hclose
        case isTrue hlast =>
          rw [if_pos hlast]
          show basicLinesBody (escape '"' ++ (escapeLines 0 s ++ '"' :: '"' :: '"' :: rest)) = _
          rw [basicLinesBody_escape, ih (Nat.zero_le 2)]
          rfl
        case isFalse hlast =>
          rw [List.cons_append] at hclose
          rw [if_neg hlast, List.cons_append, basicLinesBody_quote hclose, ih (by omega)]
          rfl
      · rw [escapeLines, List.append_assoc, basicLinesBody_escape, ih (Nat.zero_le 2)]
        · rfl
        · exact hfeed
        · exact hquote

/-! ### Literal texts over several lines -/

theorem literalLinesBody_cons (hc : isPlain c ∨ c = '\n') (h : ¬ Closes '\x27' (c :: cs)) :
    literalLinesBody (c :: cs) = before c (literalLinesBody cs) := by
  rcases hc with hplain | rfl
  · obtain ⟨hfeed, hreturn⟩ := ne_of_isPlain hplain
    rw [literalLinesBody, if_pos hplain]
    · rintro cs rfl rfl
      exact h (closes_cons '\x27' cs)
    · exact hfeed
    · exact fun _ h => absurd h hreturn
  · rw [literalLinesBody]

open Form

theorem le_longestRun (q : Char) (run : Nat) (s : List Char) : run ≤ longestRun q run s := by
  fun_induction longestRun q run s with
  | case1 run => exact Nat.le_refl run
  | case2 run cs ih => omega
  | case3 run c cs hne ih => exact Nat.le_max_left run _

/-- In a text without three quotes in a row, as many as would make three with those before come
first only where nothing but quotes, and fewer of them, is left. -/
theorem longestRun_front (q : Char) (run : Nat) (s : List Char) (hn : n + run = 2)
    (hs : longestRun q run s ≤ 2) (h : List.replicate (n + 1) q <+: s ++ tail) :
    ∃ k ≤ n, s = List.replicate k q := by
  rw [List.replicate_succ] at h
  fun_induction longestRun q run s generalizing n with
  | case1 run => exact ⟨0, Nat.zero_le n, rfl⟩
  | case2 run cs ih =>
    have hle := le_longestRun q (run + 1) cs
    obtain ⟨m, rfl⟩ : ∃ m, n = m + 1 := ⟨1 - run, by omega⟩
    rw [List.cons_append, List.cons_prefix_cons, List.replicate_succ] at h
    obtain ⟨k, hk, rfl⟩ := ih (by omega) hs h.2
    exact ⟨k + 1, by omega, rfl⟩
  | case3 run c cs hne ih =>
    rw [List.cons_append, List.cons_prefix_cons] at h
    exact absurd h.1.symm hne

theorem literalLinesBody_of_closes (hs : longestRun '\x27' run s ≤ 2)
    (hrest : rest.head? ≠ some '\x27')
    (h : Closes '\x27' (s ++ '\x27' :: '\x27' :: '\x27' :: rest)) :
    literalLinesBody (s ++ '\x27' :: '\x27' :: '\x27' :: rest) = some (s, rest) := by
  have hrun : run ≤ 2 := Nat.le_trans (le_longestRun '\x27' run s) hs
  obtain ⟨k, hk, rfl⟩ := longestRun_front '\x27' run s (by omega) hs (front_of_closes hrun h)
  exact literalLinesBody_close (by omega) hrest

theorem literalLinesBody_append (hs : ∀ c ∈ s, isPlain c ∨ c = '\n')
    (hrun : longestRun '\x27' run s ≤ 2) (hrest : rest.head? ≠ some '\x27') :
    literalLinesBody (s ++ '\x27' :: '\x27' :: '\x27' :: rest) = some (s, rest) := by
  induction s generalizing run with
  | nil => exact literalLinesBody_close (Nat.zero_le 2) hrest
  | cons c s ih =>
    by_cases hclose : Closes '\x27' (c :: s ++ '\x27' :: '\x27' :: '\x27' :: rest)
    · exact literalLinesBody_of_closes hrun hrest hclose
    · obtain ⟨hc, hs⟩ := List.forall_mem_cons.1 hs
      have hnext : ∃ run, longestRun '\x27' run s ≤ 2 := by
        rw [longestRun] at hrun
        split at hrun
        · exact ⟨run + 1, hrun⟩
        · exact ⟨0, Nat.le_trans (Nat.le_max_right run _) hrun⟩
      obtain ⟨next, hnext⟩ := hnext
      rw [List.cons_append] at hclose ⊢
      rw [literalLinesBody_cons hc hclose, ih hs hnext]
      rfl

/-! ### Any text -/

theorem quoted_basic (h : ¬ ['"', '"'] <+: cs) :
    quoted ('"' :: cs) = (basicBody cs).map fun (s, rest) => (String.ofList s, rest) := by
  unfold quoted
  split
  · next heq =>
    cases heq
    exact absurd ⟨_, rfl⟩ h
  all_goals simp_all

theorem quoted_literal (h : ¬ ['\x27', '\x27'] <+: cs) :
    quoted ('\x27' :: cs) = (literalBody cs).map fun (s, rest) => (String.ofList s, rest) := by
  unfold quoted
  split
  case h_3 heq =>
    cases heq
    exact absurd ⟨_, rfl⟩ h
  all_goals simp_all

/-- The line feed after three opening quotes is dropped; where none is written, none is there. -/
theorem skipNewline_opening (h : '\n' ∉ s → newline? cs = none) :
    skipNewline ((if '\n' ∈ s then ['\n'] else []) ++ cs) = cs := by
  split
  · rfl
  · next hfeed => rw [List.nil_append, skipNewline, h hfeed, Option.getD_none]

/-- What a text has to be like for a form to show it. -/
def Form.Holds (s : List Char) : Form → Prop
  | basic => True
  | literal => ∀ c ∈ s, isPlain c ∧ c ≠ '\x27'
  | basicLines => True
  | literalLines => (∀ c ∈ s, isPlain c ∨ c = '\n') ∧ longestRun '\x27' 0 s ≤ 2

theorem isPlain_or_of_isControl (h : ¬ isControl c) : isPlain c ∨ c = '\n' := by
  simp only [isControl, ne_eq, decide_not, Bool.and_eq_true, Bool.not_eq_true',
    decide_eq_false_iff_not, not_and] at h
  by_cases hfeed : c = '\n'
  · exact .inr hfeed
  · exact .inl (by simpa using h hfeed)

/-- A form is only chosen for a text that it can show. -/
theorem holds_choose (s : List Char) : (choose s).Holds s := by
  unfold choose
  split
  · split <;> trivial
  · next hcontrol =>
    have hplain : ∀ c ∈ s, isPlain c ∨ c = '\n' := fun c hc =>
      isPlain_or_of_isControl fun h => hcontrol (List.any_eq_true.2 ⟨c, hc, h⟩)
    split
    · trivial
    split
    · next hliteral =>
      obtain ⟨hquote, hfeed⟩ := hliteral
      intro c hc
      refine ⟨(hplain c hc).resolve_right ?_, ?_⟩
      · rintro rfl
        exact hfeed hc
      · rintro rfl
        exact hquote hc
    split
    · trivial
    split
    · next hrun => exact ⟨hplain, hrun⟩
    split <;> trivial

theorem quoted_write_basic (s : List Char) (hrest : rest.head? ≠ some '"') :
    quoted (Form.basic.write s ++ rest) = some (String.ofList s, rest) := by
  have hopen : ¬ ['"', '"'] <+: s.flatMap escape ++ '"' :: rest := by
    rintro ⟨tail, htail⟩
    cases s with
    | nil =>
      exact hrest (congrArg List.head? (List.cons.inj htail).2.symm)
    | cons c s =>
      rw [List.flatMap_cons, List.append_assoc] at htail
      exact head?_escape_ne c _ (congrArg List.head? htail.symm)
  rw [Form.write, List.append_assoc, List.cons_append, List.singleton_append, quoted_basic hopen,
    basicBody_flatMap_escape]
  rfl

theorem quoted_write_literal (hs : ∀ c ∈ s, isPlain c ∧ c ≠ '\x27')
    (hrest : rest.head? ≠ some '\x27') :
    quoted (Form.literal.write s ++ rest) = some (String.ofList s, rest) := by
  have hopen : ¬ ['\x27', '\x27'] <+: s ++ '\x27' :: rest := by
    rintro ⟨tail, htail⟩
    cases s with
    | nil =>
      exact hrest (congrArg List.head? (List.cons.inj htail).2.symm)
    | cons c s =>
      exact (hs c List.mem_cons_self).2 (List.cons.inj htail).1.symm
  rw [Form.write, List.append_assoc, List.cons_append, List.singleton_append, quoted_literal hopen,
    literalBody_append hs]
  rfl

theorem quoted_write_basicLines (s : List Char) (hrest : rest.head? ≠ some '"') :
    quoted (Form.basicLines.write s ++ rest) = some (String.ofList s, rest) := by
  have hfront : '\n' ∉ s → newline? (escapeLines 0 s ++ '"' :: '"' :: '"' :: rest) = none :=
    newline?_escapeLines
  have hwrite : Form.basicLines.write s ++ rest =
      '"' :: '"' :: '"' :: ((if '\n' ∈ s then ['\n'] else []) ++
        (escapeLines 0 s ++ '"' :: '"' :: '"' :: rest)) := by
    simp [Form.write, openLines]
  rw [hwrite, quoted, skipNewline_opening hfront, basicLinesBody_escapeLines (Nat.zero_le 2) hrest]
  rfl

theorem quoted_write_literalLines (hs : ∀ c ∈ s, isPlain c ∨ c = '\n')
    (hrun : longestRun '\x27' 0 s ≤ 2) (hrest : rest.head? ≠ some '\x27') :
    quoted (Form.literalLines.write s ++ rest) = some (String.ofList s, rest) := by
  have hfront : '\n' ∉ s → newline? (s ++ '\x27' :: '\x27' :: '\x27' :: rest) = none := by
    intro hfeed
    cases s with
    | nil => rfl
    | cons c s =>
      have hother : c ≠ '\n' := fun h => hfeed (h ▸ List.mem_cons_self)
      exact newline?_of_isPlain ((hs c List.mem_cons_self).resolve_right hother)
  have hwrite : Form.literalLines.write s ++ rest =
      '\x27' :: '\x27' :: '\x27' :: ((if '\n' ∈ s then ['\n'] else []) ++
        (s ++ '\x27' :: '\x27' :: '\x27' :: rest)) := by
    simp [Form.write, openLines]
  rw [hwrite, quoted, skipNewline_opening hfront, literalLinesBody_append hs hrun hrest]
  rfl

/-- A form that can show a text is read as that text. -/
theorem quoted_write (f : Form) (hf : f.Holds s) (hrest : Unquoted rest) :
    quoted (f.write s ++ rest) = some (String.ofList s, rest) := by
  cases f with
  | basic => exact quoted_write_basic s hrest.1
  | literal => exact quoted_write_literal hf hrest.2
  | basicLines => exact quoted_write_basicLines s hrest.1
  | literalLines => exact quoted_write_literalLines hf.1 hf.2 hrest.2

/-- CORRECT: a text is read back as it was written, and what follows it is left. -/
theorem quoted_quote (s : String) (hrest : Unquoted rest) :
    quoted (quote s ++ rest) = some (s, rest) := by
  rw [quote, quoted_write _ (holds_choose s.toList) hrest, String.ofList_toList]

end TypeFamily.Toml
