import TypeFamily.Pattern.Set
import TypeFamily.Text.Alphanumeric

/-!
Patterns, which say what a text looks like: regular expressions. What is said here is only whether a
pattern can be read.

A pattern is made of signs, sets of characters and groups in parentheses, each of which may be
repeated, and of branches between bars. A group may have a name, and flags may change the modes for
what follows in a group.
-/

namespace TypeFamily.Pattern

/-- One thing in a branch, and whether it can be repeated. -/
structure Piece where
  depth : Nat
  repeats : Bool := true
deriving DecidableEq, Repr

/-- What has been read of a group. -/
structure Reading where
  mode : Mode := {}
  /-- The names of all groups so far. -/
  names : List String := []
  /-- How deep the branches before the last one are. -/
  branches : List Nat := []
  /-- What the last branch has, the last first. -/
  pieces : List Piece := []
deriving DecidableEq, Repr

namespace Reading

/-- A group with one more piece. -/
def add (r : Reading) (p : Piece) : Reading :=
  { r with pieces := p :: r.pieces }

/-- A group after a bar. -/
def bar (r : Reading) : Reading :=
  { r with branches := rowDepth (r.pieces.map (·.depth)) :: r.branches, pieces := [] }

/-- How deep a group is, the parentheses aside. -/
def depth (r : Reading) : Nat :=
  rowDepth r.bar.branches

/-- Repeats the last piece. -/
def again? (r : Reading) : Option Reading :=
  match r.pieces with
  | { depth, repeats := true } :: ps => some { r with pieces := { depth := depth + 1 } :: ps }
  | _ => none

end Reading

/-- A character that the name of a group may start with. -/
def startsName (c : Char) : Bool :=
  c = '_' || Text.isLetter c

/-- A character that may be in the name of a group. -/
def continuesName (c : Char) : Bool :=
  c ∈ ['_', '.', '[', ']'] || Text.isAlphanumeric c

/-- Reads the name of a group up to its closing angle. No other group may have it. -/
def groupName (names : List String) (cs : List Char) : Option (String × List Char) :=
  let word := cs.takeWhile (· ≠ '>')
  let name := String.ofList word
  if word.head?.any startsName ∧ word.all continuesName ∧ name ∉ names then
    match cs.drop word.length with
    | '>' :: rest => some (name, rest)
    | _ => none
  else none

/-- A reader of all that stands in a group. -/
abbrev GroupReader : Type :=
  Reading → List Char → Option (Reading × List Char)

/-- Reads what stands in parentheses, in its own mode, and the closing one. -/
def enclosed (inside : GroupReader) (r : Reading) (mode : Mode) (cs : List Char) :
    Option (Reading × List Char) := do
  let (s, rest) ← inside { mode, names := r.names } cs
  match rest with
  | ')' :: rest => some ({ r with names := s.names }.add { depth := s.depth + 1 }, rest)
  | _ => none

/-- Reads flags after their question mark: those before a colon are for a group, those before a
closing parenthesis for what follows. The latter cannot be left out, and not be repeated either. -/
def flagged (inside : GroupReader) (r : Reading) (cs : List Char) :
    Option (Reading × List Char) := do
  let word := cs.takeWhile fun c => c ≠ ':' ∧ c ≠ ')'
  let flags ← Flags.ofLetters? word
  match cs.drop word.length with
  | ':' :: cs => enclosed inside r (r.mode.set flags) cs
  | ')' :: cs =>
    if word = [] then none
    else some ({ r with mode := r.mode.set flags }.add { depth := 0, repeats := false }, cs)
  | _ => none

/-- Reads a group after its opening parenthesis. -/
def group (inside : GroupReader) (r : Reading) (cs : List Char) : Option (Reading × List Char) :=
  let named (cs : List Char) : Option (Reading × List Char) := do
    let (name, cs) ← groupName r.names cs
    enclosed inside { r with names := name :: r.names } r.mode cs
  match r.mode.skipGap cs with
  | '?' :: 'P' :: '<' :: cs => named cs
  | '?' :: '<' :: cs => named cs
  | '?' :: cs => flagged inside r cs
  | cs => enclosed inside r r.mode cs

/-- Passes over the question mark that makes a repetition lazy. -/
def skipLazy : List Char → List Char
  | '?' :: cs => cs
  | cs => cs

/-- Reads a piece, a bar or a repetition. What an opening brace starts would need a closing one,
which patterns do not have. -/
def piece (inside : GroupReader) (r : Reading) (cs : List Char) : Option (Reading × List Char) :=
  match cs with
  | '(' :: cs => group inside r cs
  | '[' :: cs => (set nestingLimit r.mode cs).map fun (depth, rest) => (r.add { depth }, rest)
  | '|' :: cs => some (r.bar, cs)
  | '?' :: cs => r.again?.map (·, skipLazy cs)
  | '*' :: cs => r.again?.map (·, skipLazy cs)
  | '+' :: cs => r.again?.map (·, skipLazy cs)
  | '\x7b' :: _ => none
  | cs =>
    match Sign.read r.mode cs with
    | some (s, rest) => if s.isAllowed r.mode then some (r.add { depth := 0 }, rest) else none
    | none => none

/-- Reads pieces up to a closing parenthesis or the end. -/
def pieces (inside : GroupReader) (r : Reading) (cs : List Char) : Option (Reading × List Char) :=
  match r.mode.skipGap cs with
  | [] => some (r, [])
  | ')' :: rest => some (r, ')' :: rest)
  | next =>
    match piece inside r next with
    | none => none
    | some (r, rest) => if rest.length < cs.length then pieces inside r rest else none
termination_by cs.length

/-- Reads what stands in a group. Around the innermost group there are fewer others than `room`. -/
def inGroup : (room : Nat) → GroupReader
  | 0 => fun _ _ => none
  | room + 1 => pieces (inGroup room)

/-- Whether a text is a pattern that can be read. -/
def isReadable (text : List Char) : Bool :=
  match inGroup (nestingLimit + 1) {} text with
  | some (r, []) => r.depth ≤ nestingLimit
  | _ => false

set_option maxRecDepth 8000 in
example : ["", "a|", "x**", "[]a-c&&[^[:alpha:]]]", "(?x: a # b\n)", "(?P<a>.)(?<b>)", "[a-]",
    "(?-u)\\d"].map (isReadable ·.toList) = List.replicate 8 true := by cbv

set_option maxRecDepth 8000 in
example : ["(", ")", "[", "[b-a]", "a|*", "(?)", "(?<a>)(?<a>)", "\\d", "(?i)a"].map
    (isReadable ·.toList) = List.replicate 9 false := by cbv

end TypeFamily.Pattern
