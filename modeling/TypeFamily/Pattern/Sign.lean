import TypeFamily.Pattern.Mode
import TypeFamily.Text.Hex

/-!
The signs of a pattern: characters, which a backslash may spell in another way, and those that stand
for one of many characters or for a place between two.

Patterns are matched byte by byte and without tables of Unicode's classes and cases. So a sign that
asks for such a table is refused, and so is one that could match a part of a character.
-/

namespace TypeFamily.Pattern

/-- One sign. -/
inductive Sign
  /-- A character, or a byte that is spelled by its two digits. -/
  | char (c : Char) (isByte : Bool)
  /-- Any character. -/
  | dot
  /-- The start or the end of a text or line. -/
  | edge
  /-- The start or the end of a word, or a place that is neither. -/
  | wordEdge
  /-- A digit, a blank or a character of words, or any other than those. -/
  | shorthand (negated : Bool)
deriving DecidableEq, Repr

namespace Sign

/-- A character that stands for itself after a backslash. -/
def isEscapable (c : Char) : Bool :=
  c.toNat < 0x80 && !c.isAlphanum && c != '<' && c != '>'

/-- The values of as many hexadecimal digits as asked for. -/
def hexDigits (m : Mode) : Nat → List Char → Option (List Nat × List Char)
  | 0, cs => some ([], cs)
  | n + 1, c :: cs => do
    let value ← Text.hexValue? c
    let (values, rest) ← hexDigits m n (m.skipGap cs)
    return (value :: values, rest)
  | _ + 1, [] => none

/-- A character by its code point in so many hexadecimal digits. -/
def spelled (m : Mode) (width : Nat) (cs : List Char) : Option (Sign × List Char) := do
  let (values, rest) ← hexDigits m width (m.skipGap cs)
  let c ← Text.charOfHexValues? values
  return (char c (width = 2), rest)

/-- Reads a sign after its backslash. What would need a closing brace is none. -/
def escaped (m : Mode) : List Char → Option (Sign × List Char)
  | [] => none
  | c :: cs =>
    match c with
    | 'x' => spelled m 2 cs
    | 'u' => spelled m 4 cs
    | 'U' => spelled m 8 cs
    | 'd' | 's' | 'w' => some (shorthand false, cs)
    | 'D' | 'S' | 'W' => some (shorthand true, cs)
    | 'b' | 'B' | '<' | '>' => some (wordEdge, cs)
    | 'A' | 'z' => some (edge, cs)
    | 'a' => some (char '\x07' false, cs)
    | 'f' => some (char '\x0c' false, cs)
    | 't' => some (char '\t' false, cs)
    | 'n' => some (char '\n' false, cs)
    | 'r' => some (char '\r' false, cs)
    | 'v' => some (char '\x0b' false, cs)
    | c => if isEscapable c then some (char c false, cs) else none

/-- Reads a sign between brackets, where only the backslash has a meaning of its own. -/
def inSet (m : Mode) : List Char → Option (Sign × List Char)
  | [] => none
  | '\\' :: cs => escaped m cs
  | c :: cs => some (char c false, cs)

/-- Reads a sign. -/
def read (m : Mode) : List Char → Option (Sign × List Char)
  | '.' :: cs => some (dot, cs)
  | '^' :: cs => some (edge, cs)
  | '$' :: cs => some (edge, cs)
  | cs => inSet m cs

/-- Whether a sign can be matched on its own. -/
def isAllowed (m : Mode) : Sign → Bool
  | char c isByte => if m.unicode then !m.anyCase else c.toNat < 0x80 || !isByte
  | dot => m.unicode
  | edge => true
  | wordEdge => !m.unicode
  | shorthand negated => !m.unicode && !negated

/-- Whether a sign can be a member of a set. -/
def isMember (m : Mode) : Sign → Bool
  | char c _ => if m.unicode then !m.anyCase else c.toNat < 0x80
  | shorthand negated => !m.unicode && !negated
  | _ => false

example : read {} "\\x4ab".toList = some (char 'J' true, ['b']) := by decide

example : ["\\", "\\1", "\\p", "\\xg0", "\\uD800", "\\é"].map (read {} ·.toList) =
    List.replicate 6 none := by decide

end Sign

end TypeFamily.Pattern
