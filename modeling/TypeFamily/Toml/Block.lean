import TypeFamily.Toml.Quoted.Writer

/-!
Documents as they are written: blocks of keys, each under a header or at the top, set apart by a
blank line.
-/

namespace TypeFamily.Toml

/-- What a key holds: a text, a truth value or several texts. -/
inductive Field where
  | text (s : String)
  | flag (b : Bool)
  | texts (ss : List String)
deriving DecidableEq, Repr

/-- One of several texts, on a line of its own. -/
def itemLine (s : String) : List Char :=
  [' ', ' ', ' ', ' '] ++ quote s ++ [',', '\n']

/-- A field as a document shows it. A list of more than one text has a line for each. -/
def Field.write : Field → List Char
  | text s => quote s
  | flag true => ['t', 'r', 'u', 'e']
  | flag false => ['f', 'a', 'l', 's', 'e']
  | texts [] => ['[', ']']
  | texts [s] => '[' :: quote s ++ [']']
  | texts ss => '[' :: '\n' :: ss.flatMap itemLine ++ [']']

/-- A key with its field, on a line. -/
def fieldLine (key : String) (f : Field) : List Char :=
  key.toList ++ [' ', '=', ' '] ++ f.write ++ ['\n']

/-- Keys with their fields, under a header or at the top of a document. -/
structure Block where
  header : List Char
  fields : List (String × Field)

/-- A block as a document shows it. -/
def Block.write (b : Block) : List Char :=
  b.header ++ b.fields.flatMap fun (key, f) => fieldLine key f

/-- The block of a table. -/
def tableBlock (name : String) (fields : List (String × Field)) : Block :=
  ⟨'[' :: name.toList ++ [']', '\n'], fields⟩

/-- The block of one table of an array. -/
def itemBlock (name : String) (fields : List (String × Field)) : Block :=
  ⟨'[' :: '[' :: name.toList ++ [']', ']', '\n'], fields⟩

/-- Blocks with a blank line between each two. -/
def writeBlocks : List Block → List Char
  | [] => []
  | [b] => b.write
  | b :: bs => b.write ++ '\n' :: writeBlocks bs

end TypeFamily.Toml
