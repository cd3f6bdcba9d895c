/-!
Places in a text that are counted in the bytes that write it. A text can be split at such a place
wherever one character ends and the next begins.
-/

namespace TypeFamily.Text

/-- How many bytes write a text. -/
def byteCount : List Char → Nat
  | [] => 0
  | c :: cs => c.utf8Size + byteCount cs

/-- Takes so many bytes off the front of a text. There is no place in the middle of a character. -/
def splitAtByte? : Nat → List Char → Option (List Char × List Char)
  | 0, cs => some ([], cs)
  | _ + 1, [] => none
  | n + 1, c :: cs => do
    if n + 1 < c.utf8Size then none
    let (front, rest) ← splitAtByte? (n + 1 - c.utf8Size) cs
    return (c :: front, rest)

example : splitAtByte? 3 "aéb".toList = some (['a', 'é'], ['b']) := by decide

example : splitAtByte? 2 "aéb".toList = none := by decide

end TypeFamily.Text
