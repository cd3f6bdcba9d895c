import TypeFamily.Toml.Literal

/-!
A TOML document: lines with a key and its value, and lines that head a section. Reading it gives the
entries of its outermost table, or nothing if the document is malformed.
-/

namespace TypeFamily.Toml

/-- What a line of a document says, if it is not blank. -/
inductive Line where
  | entry (path : List String) (v : Value)
  | header (h : Header)

/-- Reads the part of a line that says something. -/
def line : Reader (Option Line)
  | '[' :: '[' :: cs => do
    let (path, rest) ← keyPath cs
    let rest ← (char? ']' rest).bind (char? ']')
    return (some (.header (.tables path)), rest)
  | '[' :: cs => do
    let (path, rest) ← keyPath cs
    let rest ← char? ']' rest
    return (some (.header (.table path)), rest)
  | cs =>
    if (endOfLine? cs).isSome then some (none, cs)
    else do
      let ((path, v), rest) ← assignment (value (depthLimit - 1)) cs
      return (some (.entry path v), rest)

/-- Reads line after line up to the end. Each takes at least its first character with it. -/
def lines (cs : List Char) : Option (List Line) :=
  match cs with
  | [] => some []
  | c :: tail => do
    let (said, rest) ← line (skipSpaces (c :: tail))
    let next ← endOfLine? rest
    if next.length ≤ tail.length then
      let more ← lines next
      return said.toList ++ more
    else none
termination_by cs.length

/-- The keys before the first header, and the sections. -/
def sections : List Line → List (List String × Value) × List Section
  | [] => ([], [])
  | .entry path v :: rest =>
    let (top, ss) := sections rest
    ((path, v) :: top, ss)
  | .header h :: rest =>
    let (items, ss) := sections rest
    ([], ⟨h, items⟩ :: ss)

/-- The outermost table of a document given by its lines. -/
def assemble (ls : List Line) : Option Entries := do
  let (top, ss) := sections ls
  let root ← addEntries .header [] top
  ss.foldlM addSection root

/-- Reads a document. A byte order mark may stand at its front. -/
def parse (s : String) : Option Entries :=
  let cs := s.toList
  (lines (if cs.head? = some '\ufeff' then cs.tail else cs)).bind assemble

end TypeFamily.Toml
