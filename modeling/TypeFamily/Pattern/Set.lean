import TypeFamily.Pattern.Nesting
import TypeFamily.Pattern.Sign

/-!
Sets of characters in brackets: their members are characters, ranges, classes by name and sets in
brackets themselves. Two ampersands, hyphens or tildes make one set of what stands on their sides.
A caret in front turns a set around, which makes sense for characters only and not for bytes.
-/

namespace TypeFamily.Pattern

/-- The classes of ASCII characters that have names. -/
def classNames : List String :=
  ["alnum", "alpha", "ascii", "blank", "cntrl", "digit", "graph", "lower", "print", "punct",
    "space", "upper", "word", "xdigit"]

/-- Reads the name of a class after its opening bracket, and whether what is meant is all but that
class. -/
def className? (cs : List Char) : Option (Bool × List Char) :=
  match cs with
  | ':' :: cs =>
    let negated := cs.head? = some '^'
    let cs := if negated then cs.drop 1 else cs
    match cs.dropWhile (· ≠ ':') with
    | ':' :: ']' :: rest =>
      if String.ofList (cs.takeWhile (· ≠ ':')) ∈ classNames then some (negated, rest) else none
    | _ => none
  | _ => none

/-- Whether a class by name can be a member. -/
def isClassAllowed (m : Mode) (negated : Bool) : Bool :=
  if m.unicode then !m.anyCase else !negated

/-- What has been read of a set. -/
structure SetReading where
  /-- How deep the sets before the last operator are. -/
  operands : Option Nat := none
  /-- How deep the members after it are. -/
  members : List Nat := []
deriving DecidableEq, Repr

namespace SetReading

/-- How deep a set is, the brackets aside. An operator takes all that stands before it. -/
def depth (s : SetReading) : Nat :=
  match s.operands with
  | none => rowDepth s.members
  | some before => max before (rowDepth s.members) + 1

/-- A set with one more member. -/
def add (s : SetReading) (depth : Nat) : SetReading :=
  { s with members := depth :: s.members }

/-- A set after an operator. -/
def operator (s : SetReading) : SetReading :=
  { operands := some s.depth }

end SetReading

/-- What follows a hyphen, blanks and a hash left out. -/
def afterHyphen? (m : Mode) (cs : List Char) : Option Char :=
  if m.spaced then
    match cs.dropWhile Text.isBlank with
    | '#' :: cs => (cs.dropWhile Text.isBlank).head?
    | cs => cs.head?
  else cs.head?

/-- Whether what comes next is a hyphen that makes a range: not one of two, and not the last of a
set. -/
def startsRange (m : Mode) : List Char → Bool
  | '-' :: cs => afterHyphen? m cs ∉ [some ']', some '-']
  | _ => false

/-- Reads a sign or a range of characters. -/
def signOrRange (m : Mode) (cs : List Char) : Option (List Char) := do
  let (first, rest) ← Sign.inSet m cs
  let rest := m.skipGap rest
  if !first.isMember m then none
  if !startsRange m rest then return rest
  let (last, rest) ← Sign.inSet m (m.skipGap (rest.drop 1))
  if !last.isMember m then none
  match first, last with
  | .char c _, .char d _ => if c ≤ d then some rest else none
  | _, _ => none

/-- Reads one member of a set or an operator. -/
def member (nested : List Char → Option (Nat × List Char)) (m : Mode) (s : SetReading)
    (cs : List Char) : Option (SetReading × List Char) :=
  match cs with
  | '&' :: '&' :: cs => some (s.operator, cs)
  | '-' :: '-' :: cs => some (s.operator, cs)
  | '~' :: '~' :: cs => some (s.operator, cs)
  | '[' :: cs =>
    match className? cs with
    | some (negated, rest) => if isClassAllowed m negated then some (s.add 0, rest) else none
    | none => (nested cs).map fun (depth, rest) => (s.add depth, rest)
  | cs => (signOrRange m cs).map (s.add 0, ·)

/-- Reads the members of a set up to its closing bracket. -/
def members (nested : List Char → Option (Nat × List Char)) (m : Mode) (s : SetReading)
    (cs : List Char) : Option (SetReading × List Char) :=
  match m.skipGap cs with
  | ']' :: rest => some (s, rest)
  | next =>
    match member nested m s next with
    | none => none
    | some (s, rest) => if rest.length < cs.length then members nested m s rest else none
termination_by cs.length

/-- Passes over hyphens in front of a set, which are members. -/
def hyphens (m : Mode) (s : SetReading) : List Char → SetReading × List Char
  | '-' :: cs => hyphens m (s.add 0) (m.skipGap cs)
  | cs => (s, cs)
termination_by cs => cs.length
decreasing_by
  simpa using Nat.lt_succ_of_le (m.length_skipGap_le cs)

/-- Reads the start of a set. In front of all others, a closing bracket is a member too. -/
def opening (m : Mode) (cs : List Char) : SetReading × List Char :=
  match hyphens m {} cs with
  | ({ members := [], .. }, ']' :: cs) => (({} : SetReading).add 0, m.skipGap cs)
  | read => read

/-- Reads a set after its opening bracket and tells how deep it is. Around the innermost set there
are fewer others than `room`. -/
def set : (room : Nat) → Mode → List Char → Option (Nat × List Char)
  | 0, _, _ => none
  | room + 1, m, cs => do
    let cs := m.skipGap cs
    let negated := cs.head? = some '^'
    if negated ∧ !m.unicode then none
    let (s, cs) := opening m (if negated then m.skipGap (cs.drop 1) else cs)
    if s.members ≠ [] ∧ m.needsCases then none
    let (s, rest) ← members (set room m) m s cs
    return (s.depth + 1, rest)

end TypeFamily.Pattern
