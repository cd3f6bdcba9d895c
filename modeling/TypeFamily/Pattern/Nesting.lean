/-!
How deep a pattern nests. Parts in a row are a level above the deepest of them, but a part alone is
no row. A pattern may nest only so deep.
-/

namespace TypeFamily.Pattern

/-- How deep a pattern may nest. -/
def nestingLimit : Nat := 250

/-- How deep parts in a row nest. -/
def rowDepth : List Nat → Nat
  | [] => 0
  | [d] => d
  | d :: ds => ds.foldl max d + 1

end TypeFamily.Pattern
