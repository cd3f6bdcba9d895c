import TypeFamily.Toml.Lexical

/-!
How a text is written in a TOML document.

There are four forms. A basic text stands in double quotes and knows escapes, a literal text stands
in single quotes and knows none, and each has a form with three quotes that may run over several
lines. A text is written in the first form that shows it without escapes, as far as there is one.
-/

namespace TypeFamily.Toml

/-- The ways to write a text. -/
inductive Form where
  | basic
  | literal
  | basicLines
  | literalLines
deriving DecidableEq, Repr

namespace Form

/-- A control character other than the tab and the line feed. -/
def isControl (c : Char) : Bool :=
  c ≠ '\n' && !isPlain c

/-- The length of the longest run of one character, when `run` of them came just before. -/
def longestRun (q : Char) (run : Nat) : List Char → Nat
  | [] => run
  | c :: cs => if c = q then longestRun q (run + 1) cs else max run (longestRun q 0 cs)

/-- The form in which a text is written. -/
def choose (s : List Char) : Form :=
  if s.any isControl then if '\n' ∈ s then basicLines else basic
  else if '\\' ∉ s ∧ '"' ∉ s ∧ '\n' ∉ s then basic
  else if '\x27' ∉ s ∧ '\n' ∉ s then literal
  else if '\\' ∉ s ∧ longestRun '"' 0 s ≤ 2 then basicLines
  else if longestRun '\x27' 0 s ≤ 2 then literalLines
  else if '\n' ∈ s then basicLines
  else basic

end Form

/-- The digits of a code point below 256, as an escape has them. -/
def byteDigits (n : Nat) : List Char :=
  [Nat.digitChar (n / 16), Nat.digitChar (n % 16)].map Char.toUpper

/-- One character of a basic text. -/
def escape (c : Char) : List Char :=
  match c with
  | '\x08' => ['\\', 'b']
  | '\t' => ['\\', 't']
  | '\n' => ['\\', 'n']
  | '\x0c' => ['\\', 'f']
  | '\r' => ['\\', 'r']
  | '"' => ['\\', '"']
  | '\\' => ['\\', '\\']
  | c => if isPlain c then [c] else ['\\', 'u', '0', '0'] ++ byteDigits c.toNat

/-- The characters of a basic text over several lines, after `run` double quotes in a row: of these
every third is escaped, so that three never stand together. -/
def escapeLines (run : Nat) : List Char → List Char
  | [] => []
  | '\n' :: cs => '\n' :: escapeLines 0 cs
  | '"' :: cs =>
    if run = 2 then '\\' :: '"' :: escapeLines 0 cs else '"' :: escapeLines (run + 1) cs
  | c :: cs => escape c ++ escapeLines 0 cs

/-- Three quotes, and the line feed that is not part of a text over several lines. -/
def openLines (q : Char) (s : List Char) : List Char :=
  q :: q :: q :: if '\n' ∈ s then ['\n'] else []

/-- A text in a given form. -/
def Form.write (s : List Char) : Form → List Char
  | basic => '"' :: s.flatMap escape ++ ['"']
  | literal => '\x27' :: s ++ ['\x27']
  | basicLines => openLines '"' s ++ escapeLines 0 s ++ ['"', '"', '"']
  | literalLines => openLines '\x27' s ++ s ++ ['\x27', '\x27', '\x27']

/-- A text as a document shows it. -/
def quote (s : String) : List Char :=
  (Form.choose s.toList).write s.toList

example : quote "a\tb" = "\"a\\tb\"".toList := by cbv

example : quote "say \"so\"" = "'say \"so\"'".toList := by cbv

example : quote "it's \"so\"" = "\"\"\"it's \"so\"\"\"\"".toList := by cbv

example : quote "it's \\" = "'''it's \\'''".toList := by cbv

example : quote "one\ntwo" = "\"\"\"\none\ntwo\"\"\"".toList := by cbv

end TypeFamily.Toml
