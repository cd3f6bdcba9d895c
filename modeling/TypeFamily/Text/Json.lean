/-!
JSON written for people: two spaces of indentation a level, one member a line, and an empty list as
a bare pair of brackets.
-/

namespace TypeFamily.Text

/-- The part of JSON that reports and instances are written in. -/
inductive Json where
  | text (s : String)
  | number (n : Nat)
  | list (items : List Json)
  | record (members : List (String × Json))

namespace Json

/-- One character of a quoted text. -/
def char (c : Char) : List Char :=
  match c with
  | '"' => ['\\', '"']
  | '\\' => ['\\', '\\']
  | '\n' => ['\\', 'n']
  | '\r' => ['\\', 'r']
  | '\t' => ['\\', 't']
  | '\x08' => ['\\', 'b']
  | '\x0c' => ['\\', 'f']
  | c =>
    if c.toNat < 0x10 then ['\\', 'u', '0', '0', '0'] ++ Nat.toDigits 16 c.toNat
    else if c.toNat < 0x20 then ['\\', 'u', '0', '0'] ++ Nat.toDigits 16 c.toNat
    else [c]

/-- A text in double quotes. -/
def quoted (s : String) : String :=
  String.ofList ('"' :: s.toList.flatMap char ++ ['"'])

/-- A character that JSON need not escape. -/
def isPlain (c : Char) : Bool :=
  0x20 ≤ c.toNat && c ≠ '"' && c ≠ '\\'

theorem char_of_isPlain {c : Char} (h : isPlain c) : char c = [c] := by
  simp only [isPlain, Bool.and_eq_true, decide_eq_true_eq] at h
  obtain ⟨⟨hprinted, hquote⟩, hslash⟩ := h
  unfold char
  split
  case h_8 =>
    rw [if_neg (by omega), if_neg (by omega)]
  all_goals simp_all

theorem isPlain_append {s t : String} (hs : s.toList.all isPlain)
    (ht : t.toList.all isPlain) : (s ++ t).toList.all isPlain := by
  rw [String.toList_append, List.all_append, hs, ht]
  rfl

/-- A text of plain characters stands in quotes as it is. -/
theorem quoted_of_isPlain {s : String} (h : s.toList.all isPlain) :
    quoted s = "\"" ++ s ++ "\"" := by
  have unescaped : s.toList.map char = s.toList.map fun c => [c] :=
    List.map_congr_left fun c hc => char_of_isPlain (List.all_eq_true.1 h c hc)
  rw [quoted, List.flatMap_def, unescaped, ← List.flatMap_def, List.flatMap_singleton',
    ← String.toList_inj]
  simp

/-- The start of a line `depth` levels deep. -/
def newline (depth : Nat) : String :=
  String.ofList ('\n' :: List.replicate (2 * depth) ' ')

mutual

/-- The text of a value whose first line stands `depth` levels deep. -/
def pretty (depth : Nat) : Json → String
  | text s => quoted s
  | number n => toString n
  | list [] => "[]"
  | list (v :: vs) => "[" ++ newline (depth + 1) ++ pretty (depth + 1) v ++
      prettyItems (depth + 1) vs ++ newline depth ++ "]"
  | record [] => "\x7b\x7d"
  | record ((k, v) :: ms) => "\x7b" ++ newline (depth + 1) ++ quoted k ++ ": " ++
      pretty (depth + 1) v ++ prettyMembers (depth + 1) ms ++ newline depth ++ "\x7d"

/-- The items of a list after its first. -/
def prettyItems (depth : Nat) : List Json → String
  | [] => ""
  | v :: vs => "," ++ newline depth ++ pretty depth v ++ prettyItems depth vs

/-- The members of a record after its first. -/
def prettyMembers (depth : Nat) : List (String × Json) → String
  | [] => ""
  | (k, v) :: ms => "," ++ newline depth ++ quoted k ++ ": " ++ pretty depth v ++
      prettyMembers depth ms

end

/-- The items of a list stand on lines of their own, with commas between them. -/
theorem pretty_append_prettyItems (depth : Nat) (v : Json) (vs : List Json) :
    v.pretty depth ++ prettyItems depth vs =
      ("," ++ newline depth).intercalate ((v :: vs).map (pretty depth)) := by
  induction vs generalizing v with
  | nil => simp [prettyItems]
  | cons w vs ih =>
    rw [List.map_cons, List.map_cons, String.intercalate_cons_cons, ← List.map_cons, ← ih,
      prettyItems]
    simp only [String.append_assoc]

theorem pretty_list {vs : List Json} (depth : Nat) (h : vs ≠ []) :
    (list vs).pretty depth = "[" ++ newline (depth + 1) ++
      ("," ++ newline (depth + 1)).intercalate (vs.map (pretty (depth + 1))) ++
        newline depth ++ "]" := by
  cases vs with
  | nil => exact absurd rfl h
  | cons v vs =>
    rw [pretty, ← pretty_append_prettyItems]
    simp only [String.append_assoc]

end Json

/-- What stands at the start of each item can be taken out of all. -/
theorem append_intercalate {β : Type} {xs : List β} (start comma : String) (text : β → String)
    (h : xs ≠ []) : start ++ (comma ++ start).intercalate (xs.map text) =
      comma.intercalate (xs.map fun x => start ++ text x) := by
  induction xs with
  | nil => exact absurd rfl h
  | cons x xs ih =>
    by_cases hxs : xs = []
    · simp [hxs]
    · have hmap : ∀ text : β → String, xs.map text ≠ [] := by simpa using hxs
      rw [List.map_cons, List.map_cons, String.intercalate_cons_of_ne_nil (hmap _),
        String.intercalate_cons_of_ne_nil (hmap _), ← ih hxs]
      simp only [String.append_assoc]

end TypeFamily.Text
