/-!
Text cut to a length and padded with spaces to a width, both counted in characters.
-/

namespace TypeFamily.Text

/-- Where a text stands within the width it is padded to. -/
inductive Alignment where
  | left
  | right
  | center
deriving DecidableEq, Repr

/-- How many of `room` spare places go before the text; of an odd number the centre puts the odd
one after it. -/
def Alignment.before (room : Nat) : Alignment → Nat
  | .left => 0
  | .right => room
  | .center => room / 2

/-- Fills a text with spaces up to `width` characters; a longer text stays as it is. -/
def pad (alignment : Alignment) (width : Nat) (s : String) : String :=
  let room := width - s.length
  let before := alignment.before room
  String.ofList (List.replicate before ' ' ++ s.toList ++ List.replicate (room - before) ' ')

/-- The first `limit` characters of a text, or all of it when there is no limit. -/
def cut (limit : Option Nat) (s : String) : String :=
  match limit with
  | some n => String.ofList (s.toList.take n)
  | none => s

example : pad .center 6 (cut (some 3) "Circle") = " Cir  " := by cbv

end TypeFamily.Text
