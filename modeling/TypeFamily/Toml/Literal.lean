import TypeFamily.Toml.Datetime
import TypeFamily.Toml.Key
import TypeFamily.Toml.Table

/-!
Values as a TOML document writes them: texts, numbers, dates, truth values, arrays in brackets and
tables in braces.
-/

namespace TypeFamily.Toml

/-- Reads a value that holds no others. -/
def scalar : Reader Value := fun cs =>
  match cs with
  | 't' :: 'r' :: 'u' :: 'e' :: rest => some (.boolean true, rest)
  | 'f' :: 'a' :: 'l' :: 's' :: 'e' :: rest => some (.boolean false, rest)
  | c :: _ =>
    if c = '"' ∨ c = '\x27' then (quoted cs).map fun (s, rest) => (.text s, rest)
    else
      match datetime cs with
      | some found => some found
      | none => number cs
  | [] => none

/-- Passes over the comma between two items of an array. One before the closing bracket separates
nothing. -/
def itemComma? : List Char → Option (List Char)
  | ',' :: cs => if (skipTrivia false cs).head? = some ']' then none else some cs
  | _ => none

/-- Reads an array after its opening bracket. -/
def arrayBody (item : Reader Value) : Reader (List Value) := fun cs =>
  let cs := skipTrivia false cs
  match cs with
  | ']' :: rest => some ([], rest)
  | _ => do
    let spaced : Reader Value := fun cs =>
      (item (skipTrivia false cs)).map fun (v, rest) => (v, skipTrivia false rest)
    let (items, rest) ← separated spaced itemComma? cs
    match rest with
    | ',' :: rest => (char? ']' (skipTrivia false rest)).map (items, ·)
    | rest => (char? ']' rest).map (items, ·)

/-- Reads a key, an equals sign and a value. -/
def assignment (item : Reader Value) : Reader (List String × Value) := fun cs => do
  let (path, rest) ← keyPath cs
  let rest ← char? '=' rest
  let (v, rest) ← item (skipSpaces rest)
  return ((path, v), skipSpaces rest)

/-- Reads a table after its opening brace. It stands on one line and ends without a comma. -/
def inlineBody (item : Reader Value) : Reader Entries := fun cs =>
  match skipSpaces cs with
  | '\x7d' :: rest => some ([], rest)
  | cs => do
    let (items, rest) ← separated (assignment item) (char? ',') cs
    let rest ← char? '\x7d' rest
    let es ← addEntries .inline [] items
    return (es, rest)

/-- Reads a value with at most `depth` arrays and tables around its innermost ones. -/
def value (depth : Nat) : Reader Value :=
  match depth with
  | 0 => scalar
  | depth + 1 => fun cs =>
    match cs with
    | '[' :: rest => (arrayBody (value depth) rest).map fun (items, rest) => (.array items, rest)
    | '\x7b' :: rest =>
      (inlineBody (value depth) rest).map fun (es, rest) => (.table .inline es, rest)
    | cs => scalar cs

end TypeFamily.Toml
