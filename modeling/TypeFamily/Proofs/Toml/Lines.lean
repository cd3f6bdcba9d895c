import Mathlib.Data.List.Forall2
import TypeFamily.Proofs.Toml.Field
import TypeFamily.Toml.Document

/-!
The blocks of a written document are read back line by line: a header, and an entry for each of
their keys. What stands in a document up to the end of a line can be read without what follows, so
blocks are read one after the other.
-/

namespace TypeFamily.Toml

variable {c d : Char} {cs w w' rest : List Char} {key name : String}

/-! ### Keys -/

/-- A key that stands without quotes. -/
def Bare (key : String) : Prop :=
  key.toList ≠ [] ∧ ∀ c ∈ key.toList, isBareKeyChar c

theorem bare_iff_all : (!key.toList.isEmpty && key.toList.all isBareKeyChar) = true ↔ Bare key := by
  simp [Bare]

-- by the characters of the key; searched for, the instance may try every character there is
instance (key : String) : Decidable (Bare key) :=
  decidable_of_iff _ bare_iff_all

theorem ne_of_isBareKeyChar (hc : isBareKeyChar c) (hd : isBareKeyChar d = false) : c ≠ d := by
  rintro rfl
  rw [hd] at hc
  cases hc

theorem Bare.exists_eq (hkey : Bare key) : ∃ c w, key.toList = c :: w ∧ isBareKeyChar c := by
  obtain ⟨hne, hbare⟩ := hkey
  cases heq : key.toList with
  | nil => exact absurd heq hne
  | cons c w => exact ⟨c, w, rfl, hbare c (by rw [heq]; exact List.mem_cons_self)⟩

theorem skipSpaces_cons (h : isSpace c = false) : skipSpaces (c :: cs) = c :: cs := by
  rw [skipSpaces, List.dropWhile_cons_of_neg (by rw [h]; exact Bool.false_ne_true)]

theorem isSpace_of_isBareKeyChar (h : isBareKeyChar c) : isSpace c = false := by
  have hspace := ne_of_isBareKeyChar h (d := ' ') (by decide)
  have htab := ne_of_isBareKeyChar h (d := '\t') (by decide)
  simp [isSpace, hspace, htab]

theorem skipSpaces_key (hkey : Bare key) (rest : List Char) :
    skipSpaces (key.toList ++ rest) = key.toList ++ rest := by
  obtain ⟨c, w, heq, hc⟩ := hkey.exists_eq
  rw [heq, List.cons_append, skipSpaces_cons (isSpace_of_isBareKeyChar hc)]

theorem keyPart_bare (hkey : Bare key) (hc : isBareKeyChar c = false) :
    keyPart (key.toList ++ c :: rest) = some (key, c :: rest) := by
  have htake : (key.toList ++ c :: rest).takeWhile isBareKeyChar = key.toList := by
    rw [List.takeWhile_append_of_pos hkey.2, List.takeWhile_cons_of_neg (by simp [hc]),
      List.append_nil]
  have hdrop : (key.toList ++ c :: rest).dropWhile isBareKeyChar = c :: rest := by
    rw [List.dropWhile_append_of_pos hkey.2, List.dropWhile_cons_of_neg (by simp [hc])]
  obtain ⟨b, w, heq, hb⟩ := hkey.exists_eq
  unfold keyPart
  split
  · next hquote =>
    rw [heq, List.cons_append] at hquote
    exact absurd (List.cons.inj hquote).1 (ne_of_isBareKeyChar hb (by decide))
  · next hquote =>
    rw [heq, List.cons_append] at hquote
    exact absurd (List.cons.inj hquote).1 (ne_of_isBareKeyChar hb (by decide))
  · rw [htake, hdrop, String.ofList_toList, heq]
    rfl

theorem keyPath_bare (hkey : Bare key) (hc : isBareKeyChar c = false)
    (hdot : char? '.' (skipSpaces (c :: rest)) = none) :
    keyPath (key.toList ++ c :: rest) = some ([key], skipSpaces (c :: rest)) := by
  have hpart : spacedKeyPart (key.toList ++ c :: rest) = some (key, skipSpaces (c :: rest)) := by
    rw [spacedKeyPart, skipSpaces_key hkey, keyPart_bare hkey hc]
    rfl
  rw [keyPath, separated_one hpart hdot]
  rfl

/-! ### Lines -/

theorem skipSpaces_write (f : Field) (rest : List Char) :
    skipSpaces (f.write ++ rest) = f.write ++ rest := by
  cases f with
  | text s => exact skipSpaces_quote s rest
  | flag b => cases b <;> rfl
  | texts ss =>
    match ss with
    | [] => rfl
    | [s] => rfl
    | s :: s' :: ss => rfl

theorem assignment_field (hkey : Bare key) (f : Field) (depth : Nat) (rest : List Char) :
    assignment (value (depth + 1)) (key.toList ++ ' ' :: '=' :: ' ' :: (f.write ++ '\n' :: rest)) =
      some (([key], f.value), '\n' :: rest) := by
  have hpath : keyPath (key.toList ++ ' ' :: '=' :: ' ' :: (f.write ++ '\n' :: rest)) =
      some ([key], '=' :: ' ' :: (f.write ++ '\n' :: rest)) :=
    keyPath_bare hkey (by decide) rfl
  have hread : value (depth + 1) (f.write ++ '\n' :: rest) = some (f.value, '\n' :: rest) :=
    value_write f (by simp [Unquoted])
  rw [assignment, hpath]
  show (value (depth + 1) (skipSpaces (f.write ++ '\n' :: rest))).bind _ = _
  rw [skipSpaces_write, hread]
  rfl

theorem endOfLine?_key (hkey : Bare key) (rest : List Char) :
    endOfLine? (key.toList ++ rest) = none := by
  obtain ⟨c, w, heq, hc⟩ := hkey.exists_eq
  have hhash : c ≠ '#' := ne_of_isBareKeyChar hc (by decide)
  have hfeed : c ≠ '\n' := ne_of_isBareKeyChar hc (by decide)
  have hreturn : c ≠ '\r' := ne_of_isBareKeyChar hc (by decide)
  rw [endOfLine?, skipSpaces_key hkey, heq, List.cons_append]
  simp [skipComment, newline?, hhash, hfeed, hreturn]

theorem line_field (hkey : Bare key) (f : Field) (rest : List Char) :
    line (key.toList ++ ' ' :: '=' :: ' ' :: (f.write ++ '\n' :: rest)) =
      some (some (.entry [key] f.value), '\n' :: rest) := by
  have hread := assignment_field hkey f 78 rest
  obtain ⟨c, w, heq, hc⟩ := hkey.exists_eq
  have hbracket : c ≠ '[' := ne_of_isBareKeyChar hc (by decide)
  unfold line
  split
  · next h =>
    rw [heq] at h
    exact absurd (List.cons.inj h).1 hbracket
  · next h =>
    rw [heq] at h
    exact absurd (List.cons.inj h).1 hbracket
  · rw [endOfLine?_key hkey, if_neg (by simp)]
    show (assignment (value 79) _).bind _ = _
    rw [hread]
    rfl

theorem line_tableHeader (hname : Bare name) (rest : List Char) :
    line ('[' :: (name.toList ++ ']' :: '\n' :: rest)) =
      some (some (.header (.table [name])), '\n' :: rest) := by
  have hpath : keyPath (name.toList ++ ']' :: '\n' :: rest) = some ([name], ']' :: '\n' :: rest) :=
    keyPath_bare hname (by decide) rfl
  obtain ⟨c, w, heq, hc⟩ := hname.exists_eq
  have hbracket : c ≠ '[' := ne_of_isBareKeyChar hc (by decide)
  unfold line
  split
  · next h =>
    rw [heq] at h
    exact absurd (List.cons.inj (List.cons.inj h).2).1 hbracket
  · next h =>
    cases h
    rw [hpath]
    rfl
  · next h => exact absurd rfl (h _)

theorem line_tablesHeader (hname : Bare name) (rest : List Char) :
    line ('[' :: '[' :: (name.toList ++ ']' :: ']' :: '\n' :: rest)) =
      some (some (.header (.tables [name])), '\n' :: rest) := by
  have hpath : keyPath (name.toList ++ ']' :: ']' :: '\n' :: rest) =
      some ([name], ']' :: ']' :: '\n' :: rest) :=
    keyPath_bare hname (by decide) rfl
  rw [line, hpath]
  rfl

/-! ### Documents -/

/-- These characters are a number of whole lines that say these things. -/
def Says (w : List Char) (ls : List Line) : Prop :=
  ∀ rest, lines (w ++ rest) = (lines rest).map (ls ++ ·)

/-- What can be read up to the end of a line is one line, whatever follows. -/
theorem says_of_line (w : List Char) (said : Option Line)
    (hspace : ∀ rest, skipSpaces (w ++ '\n' :: rest) = w ++ '\n' :: rest)
    (hline : ∀ rest, line (w ++ '\n' :: rest) = some (said, '\n' :: rest)) :
    Says (w ++ ['\n']) said.toList := by
  intro rest
  have hne : ∃ c tail, w ++ '\n' :: rest = c :: tail ∧ rest.length ≤ tail.length := by
    cases w with
    | nil => exact ⟨'\n', rest, rfl, Nat.le_refl _⟩
    | cons c w =>
      refine ⟨c, w ++ '\n' :: rest, rfl, ?_⟩
      rw [List.length_append, List.length_cons]
      omega
  obtain ⟨c, tail, heq, hle⟩ := hne
  have hread := hline rest
  have hfront := hspace rest
  have hend : endOfLine? ('\n' :: rest) = some rest := rfl
  rw [heq] at hread hfront
  rw [List.append_assoc, List.singleton_append, heq, lines, hfront, hread]
  simp only [Option.bind_eq_bind, Option.bind_some, hend, if_pos hle]
  cases lines rest <;> rfl

namespace Says

variable {ls ls' : List Line}

theorem nil : Says [] [] := by
  intro rest
  rw [List.nil_append]
  cases lines rest <;> rfl

theorem append (h : Says w ls) (h' : Says w' ls') : Says (w ++ w') (ls ++ ls') := by
  intro rest
  rw [List.append_assoc, h, h']
  cases lines rest <;> simp

/-- The whole of a document. -/
theorem lines_eq (h : Says w ls) : lines w = some ls := by
  have hall := h []
  rw [List.append_nil, lines] at hall
  simpa using hall

end Says

theorem says_blank : Says ['\n'] [] :=
  says_of_line [] none (fun _ => rfl) fun _ => rfl

theorem says_fieldLine (hkey : Bare key) (f : Field) :
    Says (fieldLine key f) [.entry [key] f.value] := by
  have hwrite : fieldLine key f = key.toList ++ ' ' :: '=' :: ' ' :: f.write ++ ['\n'] := by
    simp [fieldLine]
  rw [hwrite]
  refine says_of_line _ (some (.entry [key] f.value)) ?_ ?_
  · intro rest
    rw [List.append_assoc]
    exact skipSpaces_key hkey _
  · intro rest
    have hline := line_field hkey f rest
    simpa using hline

/-! ### Blocks -/

/-- The keys of a table with their fields, in order. -/
abbrev Fields : Type :=
  List (String × Field)

/-- Fields as the keys and values of a section. -/
def items (fields : Fields) : List (List String × Value) :=
  fields.map fun (key, f) => ([key], f.value)

/-- Keys and values as the lines that give them. -/
def entryLines (items : List (List String × Value)) : List Line :=
  items.map fun (path, v) => .entry path v

/-- A section as lines. -/
def Section.lines (s : Section) : List Line :=
  .header s.header :: entryLines s.items

variable {fields : Fields}

theorem says_fields (hkeys : ∀ k ∈ fields.map Prod.fst, Bare k) :
    Says (fields.flatMap fun (key, f) => fieldLine key f) (entryLines (items fields)) := by
  induction fields with
  | nil => exact Says.nil
  | cons kf fields ih =>
    obtain ⟨hkey, hkeys⟩ := List.forall_mem_cons.1 hkeys
    exact (says_fieldLine hkey kf.2).append (ih hkeys)

theorem says_block {header : List Char} {ls : List Line} (hheader : Says header ls)
    (hkeys : ∀ k ∈ fields.map Prod.fst, Bare k) :
    Says (Block.mk header fields).write (ls ++ entryLines (items fields)) :=
  hheader.append (says_fields hkeys)

theorem says_tableHeader (hname : Bare name) :
    Says ('[' :: name.toList ++ [']', '\n']) [.header (.table [name])] := by
  have hwrite : '[' :: name.toList ++ [']', '\n'] = '[' :: name.toList ++ [']'] ++ ['\n'] := by
    simp
  rw [hwrite]
  refine says_of_line _ (some (.header (.table [name]))) (fun _ => rfl) ?_
  intro rest
  have hline := line_tableHeader hname rest
  simpa using hline

theorem says_tablesHeader (hname : Bare name) :
    Says ('[' :: '[' :: name.toList ++ [']', ']', '\n']) [.header (.tables [name])] := by
  have hwrite : '[' :: '[' :: name.toList ++ [']', ']', '\n'] =
      '[' :: '[' :: name.toList ++ [']', ']'] ++ ['\n'] := by
    simp
  rw [hwrite]
  refine says_of_line _ (some (.header (.tables [name]))) (fun _ => rfl) ?_
  intro rest
  have hline := line_tablesHeader hname rest
  simpa using hline

theorem says_tableBlock (hname : Bare name) (hkeys : ∀ k ∈ fields.map Prod.fst, Bare k) :
    Says (tableBlock name fields).write (Section.lines ⟨.table [name], items fields⟩) :=
  says_block (says_tableHeader hname) hkeys

theorem says_itemBlock (hname : Bare name) (hkeys : ∀ k ∈ fields.map Prod.fst, Bare k) :
    Says (itemBlock name fields).write (Section.lines ⟨.tables [name], items fields⟩) :=
  says_block (says_tablesHeader hname) hkeys

/-- CORRECT: blocks are read one after the other; the blank lines between them say nothing. -/
theorem says_writeBlocks {bs : List Block} {lss : List (List Line)}
    (h : List.Forall₂ (fun b ls => Says b.write ls) bs lss) :
    Says (writeBlocks bs) lss.flatten := by
  induction h with
  | nil => exact Says.nil
  | @cons b ls bs lss hb hbs ih =>
    rw [List.flatten_cons]
    cases hbs with
    | nil =>
      rw [List.flatten_nil, List.append_nil]
      exact hb
    | cons hb' hbs => exact hb.append (says_blank.append ih)

end TypeFamily.Toml
