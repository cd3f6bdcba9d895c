import TypeFamily.Toml.Quoted.Reader

/-!
Keys of a TOML document: bare or quoted, and dotted where they lead through tables.
-/

namespace TypeFamily.Toml

/-- Keys, arrays and inline tables go fewer than this many levels deep. -/
def depthLimit : Nat := 80

/-- A character of a key that stands without quotes. -/
def isBareKeyChar (c : Char) : Bool :=
  c.isAlphanum || c = '_' || c = '-'

/-- Reads one part of a key. -/
def keyPart : Reader String
  | '"' :: cs => (basicBody cs).map fun (s, rest) => (String.ofList s, rest)
  | '\x27' :: cs => (literalBody cs).map fun (s, rest) => (String.ofList s, rest)
  | cs =>
    if (cs.takeWhile isBareKeyChar).isEmpty then none
    else some (String.ofList (cs.takeWhile isBareKeyChar), cs.dropWhile isBareKeyChar)

/-- Reads one part of a key with the spaces around it. -/
def spacedKeyPart : Reader String := fun cs =>
  (keyPart (skipSpaces cs)).map fun (k, rest) => (k, skipSpaces rest)

/-- Reads one item or more, for as long as a separator follows. An item together with its separator
has to take something off the front. -/
def separated {α : Type} (item : Reader α) (separator? : List Char → Option (List Char))
    (cs : List Char) : Option (List α × List Char) :=
  match item cs with
  | none => none
  | some (x, rest) =>
    match separator? rest with
    | none => some ([x], rest)
    | some next =>
      if next.length < cs.length then
        (separated item separator? next).map fun (xs, rest) => (x :: xs, rest)
      else none
termination_by cs.length

/-- Passes over one given character. -/
def char? (expected : Char) : List Char → Option (List Char)
  | c :: cs => if c = expected then some cs else none
  | [] => none

/-- Reads a key with all its parts. -/
def keyPath : Reader (List String) := fun cs => do
  let (path, rest) ← separated spacedKeyPart (char? '.') cs
  if path.length < depthLimit then some (path, rest) else none

end TypeFamily.Toml
