import TypeFamily.Text.Invisible

/-!
Inspection text: one line that shows the shape of a value, with every text inside it in double
quotes. Structures are written as a name and their fields in braces, alternatives as a name and
their content in parentheses.
-/

namespace TypeFamily.Text.Inspect

/-- One character of a quoted text; one that cannot be told by sight is shown by its code. -/
def char (c : Char) : List Char :=
  match c with
  | '"' => ['\\', '"']
  | '\\' => ['\\', '\\']
  | '\n' => ['\\', 'n']
  | '\r' => ['\\', 'r']
  | '\t' => ['\\', 't']
  | '\x00' => ['\\', '0']
  | c =>
    if isInvisible c then ['\\', 'u', '\x7b'] ++ Nat.toDigits 16 c.toNat ++ ['\x7d'] else [c]

/-- A text in double quotes. -/
def quoted (s : String) : String :=
  String.ofList ('"' :: s.toList.flatMap char ++ ['"'])

/-- A structure: its name, then its fields in order. -/
def record (name : String) (fields : List (String × String)) : String :=
  let shown := fields.map fun (key, value) => key ++ ": " ++ value
  name ++ " \x7b " ++ ", ".intercalate shown ++ " \x7d"

/-- A name around one value. -/
def wrapped (name inner : String) : String :=
  name ++ "(" ++ inner ++ ")"

/-- Values in order. -/
def list (items : List String) : String :=
  "[" ++ ", ".intercalate items ++ "]"

/-- The members of a set. -/
def set (items : List String) : String :=
  "\x7b" ++ ", ".intercalate items ++ "\x7d"

/-- A value that may be absent. -/
def optional : Option String → String
  | some inner => wrapped "Some" inner
  | none => "None"

example : quoted "a\t\"\x7f\"" = "\"a\\t\\\"\\u\x7b7f\x7d\\\"\"" := by cbv

end TypeFamily.Text.Inspect
