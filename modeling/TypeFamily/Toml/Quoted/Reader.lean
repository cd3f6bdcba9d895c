import TypeFamily.Text.Hex
import TypeFamily.Toml.Lexical

/-!
How a text is read in a TOML document, in any of its four forms. Over several lines, line ends are
read as line feeds; in a basic text a backslash at the end of a line takes the line end and the
blanks after it away.
-/

namespace TypeFamily.Toml

/-- The character whose code point the first `width` characters spell in hexadecimal. -/
def codePoint? (width : Nat) (cs : List Char) : Option Char := do
  let digits ← (cs.take width).mapM Text.hexValue?
  if digits.length = width then Text.charOfHexValues? digits else none

/-- The character that an escape stands for, and how many characters after the backslash it
takes. -/
def escaped? : List Char → Option (Char × Nat)
  | 'b' :: _ => some ('\x08', 1)
  | 't' :: _ => some ('\t', 1)
  | 'n' :: _ => some ('\n', 1)
  | 'f' :: _ => some ('\x0c', 1)
  | 'r' :: _ => some ('\r', 1)
  | '"' :: _ => some ('"', 1)
  | '\\' :: _ => some ('\\', 1)
  | 'u' :: cs => (codePoint? 4 cs).map (·, 5)
  | 'U' :: cs => (codePoint? 8 cs).map (·, 9)
  | _ => none

/-- What follows a backslash at the end of a line and the blank lines after it. -/
def continued? (cs : List Char) : Option (List Char) :=
  (newline? (skipSpaces cs)).map skipLines

theorem length_continued?_lt {cs rest : List Char} (h : continued? cs = some rest) :
    rest.length < cs.length := by
  obtain ⟨r, hr, rfl⟩ := Option.map_eq_some_iff.1 h
  have := length_newline?_lt hr
  have := length_skipSpaces_le cs
  have := length_skipLines_le r
  omega

/-- Puts a character before the text that was read. -/
def before (c : Char) (read : Option (List Char × List Char)) : Option (List Char × List Char) :=
  read.map fun (s, rest) => (c :: s, rest)

/-- Reads a basic text after its opening quote. -/
def basicBody (cs : List Char) : Option (List Char × List Char) :=
  match cs with
  | [] => none
  | '"' :: cs => some ([], cs)
  | '\\' :: cs =>
    match escaped? cs with
    | some (c, n) => before c (basicBody (cs.drop n))
    | none => none
  | c :: cs => if isPlain c then before c (basicBody cs) else none
termination_by cs.length

/-- Reads a literal text after its opening quote. -/
def literalBody : List Char → Option (List Char × List Char)
  | [] => none
  | '\x27' :: cs => some ([], cs)
  | c :: cs => if isPlain c then before c (literalBody cs) else none

/-- Reads the end of a text over several lines, after three quotes: up to two more belong to the
text, before the three that close it. -/
def closeLines (q : Char) : List Char → List Char × List Char
  | c :: d :: cs =>
    if c = q then if d = q then ([q, q], cs) else ([q], d :: cs) else ([], c :: d :: cs)
  | [c] => if c = q then ([q], []) else ([], [c])
  | [] => ([], [])

/-- Reads a basic text over several lines, after its opening quotes. -/
def basicLinesBody (cs : List Char) : Option (List Char × List Char) :=
  match cs with
  | [] => none
  | '"' :: '"' :: '"' :: cs => some (closeLines '"' cs)
  | '\\' :: cs =>
    match h : continued? cs with
    | some rest =>
      have := length_continued?_lt h
      basicLinesBody rest
    | none =>
      match escaped? cs with
      | some (c, n) => before c (basicLinesBody (cs.drop n))
      | none => none
  | '\n' :: cs => before '\n' (basicLinesBody cs)
  | '\r' :: '\n' :: cs => before '\n' (basicLinesBody cs)
  | c :: cs => if isPlain c then before c (basicLinesBody cs) else none
termination_by cs.length

/-- Reads a literal text over several lines, after its opening quotes. -/
def literalLinesBody : List Char → Option (List Char × List Char)
  | [] => none
  | '\x27' :: '\x27' :: '\x27' :: cs => some (closeLines '\x27' cs)
  | '\n' :: cs => before '\n' (literalLinesBody cs)
  | '\r' :: '\n' :: cs => before '\n' (literalLinesBody cs)
  | c :: cs => if isPlain c then before c (literalLinesBody cs) else none

/-- Reads a text in any form. -/
def quoted : Reader String := fun cs =>
  (match cs with
    | '"' :: '"' :: '"' :: cs => basicLinesBody (skipNewline cs)
    | '"' :: cs => basicBody cs
    | '\x27' :: '\x27' :: '\x27' :: cs => literalLinesBody (skipNewline cs)
    | '\x27' :: cs => literalBody cs
    | _ => none).map fun (s, rest) => (String.ofList s, rest)

example : quoted "'a\\b' = 1".toList = some ("a\\b", " = 1".toList) := by cbv

example : quoted "\"\"\"\none\\\n  two\"\"\"\"\"".toList = some ("onetwo\"\"", []) := by cbv

example : quoted "\"\\uD800\"".toList = none := by cbv

end TypeFamily.Toml
