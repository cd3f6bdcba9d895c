/-!
Sets of code points as tables of ranges.
-/

namespace TypeFamily.Text

/-- Ranges of code points, first and last of each. -/
abbrev Ranges : Type :=
  Array (Nat × Nat)

namespace Ranges

/-- Whether a code point is in one of the ranges. -/
def contain (rs : Ranges) (n : Nat) : Bool :=
  rs.any fun (first, last) => first ≤ n && n ≤ last

/-- How many code points are in the ranges. -/
def count (rs : Ranges) : Nat :=
  rs.toList.foldl (fun n (first, last) => n + (last + 1 - first)) 0

/-- Whether the ranges are in order, with a gap between any two. -/
def areAscending (rs : Ranges) : Bool :=
  rs.toList.all (fun (first, last) => first ≤ last) &&
    (rs.toList.zip (rs.toList.drop 1)).all fun (r, s) => r.2 + 1 < s.1

end Ranges

end TypeFamily.Text
