import TypeFamily.Text.Blank

/-!
Modes, which say how a pattern is read from some place on, and the flags that change them. Flags are
letters; those before a hyphen switch a mode on, those after it off.
-/

namespace TypeFamily.Pattern

/-- What a letter switches. -/
inductive Flag
  | anyCase
  | everyLine
  | dotMatchesAll
  | lazy
  | unicode
  | carriageReturn
  | spaced
deriving DecidableEq, Repr

namespace Flag

def ofLetter? : Char → Option Flag
  | 'i' => some anyCase
  | 'm' => some everyLine
  | 's' => some dotMatchesAll
  | 'U' => some lazy
  | 'u' => some unicode
  | 'R' => some carriageReturn
  | 'x' => some spaced
  | _ => none

end Flag

/-- Flags that are written together. -/
structure Flags where
  on : List Flag := []
  off : List Flag := []
deriving DecidableEq, Repr

namespace Flags

/-- Reads flags. No letter comes twice, and after a hyphen there is one. -/
def ofLetters? (word : List Char) : Option Flags := do
  let on ← (word.takeWhile (· ≠ '-')).mapM Flag.ofLetter?
  let off ← ((word.dropWhile (· ≠ '-')).drop 1).mapM Flag.ofLetter?
  if (on ++ off).Nodup ∧ word.getLast? ≠ some '-' then some { on, off } else none

example : ofLetters? "x-iu".toList = some { on := [.spaced], off := [.anyCase, .unicode] } := by
  decide

example : ["i-i", "i-", "-i-m", "p"].map (ofLetters? ·.toList) = List.replicate 4 none := by
  decide

end Flags

/-- The modes that decide whether a pattern can be read. -/
structure Mode where
  /-- A letter stands for itself in either case. -/
  anyCase : Bool := false
  /-- What is matched are characters, and not the bytes that write them. -/
  unicode : Bool := true
  /-- Blanks and comments may stand between the signs of a pattern. -/
  spaced : Bool := false
deriving DecidableEq, Repr

namespace Mode

/-- The modes after flags. -/
def set (m : Mode) (f : Flags) : Mode :=
  let after (flag : Flag) (before : Bool) : Bool := (before ∨ flag ∈ f.on) ∧ flag ∉ f.off
  { anyCase := after .anyCase m.anyCase
    unicode := after .unicode m.unicode
    spaced := after .spaced m.spaced }

/-- Whether a letter may need the table of letters in the other case, which there is none of for
characters above the ASCII ones. -/
def needsCases (m : Mode) : Bool :=
  m.anyCase && m.unicode

end Mode

/-- Passes over blanks and comments. A comment starts with a hash and ends with its line. -/
def skipComments (inComment : Bool) : List Char → List Char
  | [] => []
  | c :: cs =>
    if inComment then skipComments (c ≠ '\n') cs
    else if Text.isBlank c then skipComments false cs
    else if c = '#' then skipComments true cs
    else c :: cs

theorem length_skipComments_le (inComment : Bool) (cs : List Char) :
    (skipComments inComment cs).length ≤ cs.length := by
  induction cs generalizing inComment with
  | nil => exact Nat.le_refl _
  | cons c cs ih =>
    simp only [skipComments]
    have rest (b : Bool) : (skipComments b cs).length ≤ cs.length + 1 := Nat.le_succ_of_le (ih b)
    split
    · exact rest _
    · split
      · exact rest _
      · split
        · exact rest _
        · exact Nat.le_refl _

namespace Mode

/-- Passes over what may stand between two signs. -/
def skipGap (m : Mode) (cs : List Char) : List Char :=
  if m.spaced then skipComments false cs else cs

theorem length_skipGap_le (m : Mode) (cs : List Char) : (m.skipGap cs).length ≤ cs.length := by
  unfold skipGap
  split
  · exact length_skipComments_le false cs
  · exact Nat.le_refl _

end Mode

end TypeFamily.Pattern
