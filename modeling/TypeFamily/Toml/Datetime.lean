import TypeFamily.Toml.Number

/-!
Dates and times of day in a TOML document: a date, a time, or both with or without an offset. They
are checked against the calendar and the clock and kept as they are written.
-/

namespace TypeFamily.Toml

/-- A number of exactly `width` digits between `low` and `high`. -/
def fixedDigits (width low high : Nat) : Reader Nat := fun cs =>
  let ds := cs.take width
  let n := ofDigits 10 ds
  if ds.length = width ∧ ds.all Char.isDigit ∧ low ≤ n ∧ n ≤ high then some (n, cs.drop width)
  else none

/-- Passes over one of the given characters. -/
def oneOf? (allowed : List Char) : List Char → Option (List Char)
  | c :: cs => if c ∈ allowed then some cs else none
  | [] => none

/-- The number of days of a month, the first being 1. -/
def daysInMonth (year month : Nat) : Nat :=
  if month = 2 then
    if year % 4 = 0 ∧ (year % 100 ≠ 0 ∨ year % 400 = 0) then 29 else 28
  else if month ∈ [4, 6, 9, 11] then 30
  else 31

/-- Passes over a date. -/
def date? (cs : List Char) : Option (List Char) := do
  let (year, cs) ← fixedDigits 4 0 9999 cs
  let cs ← oneOf? ['-'] cs
  let (month, cs) ← fixedDigits 2 1 12 cs
  let cs ← oneOf? ['-'] cs
  let (_, cs) ← fixedDigits 2 1 (daysInMonth year month) cs
  return cs

/-- Passes over hours and minutes. -/
def hourMinute? (cs : List Char) : Option (List Char) := do
  let (_, cs) ← fixedDigits 2 0 23 cs
  let cs ← oneOf? [':'] cs
  let (_, cs) ← fixedDigits 2 0 59 cs
  return cs

/-- Passes over a time of day. A minute may have a leap second. -/
def time? (cs : List Char) : Option (List Char) := do
  let cs ← hourMinute? cs
  let cs ← oneOf? [':'] cs
  let (_, cs) ← fixedDigits 2 0 60 cs
  match cs with
  | '.' :: c :: rest =>
    if c.isDigit then return rest.dropWhile Char.isDigit else return cs
  | _ => return cs

/-- Passes over the offset of a time from that of the zero meridian. -/
def offset? (cs : List Char) : Option (List Char) :=
  match oneOf? ['Z', 'z'] cs with
  | some rest => some rest
  | none => (oneOf? ['+', '-'] cs).bind hourMinute?

/-- Passes over a date, a time or both. -/
def datetime? (cs : List Char) : Option (List Char) :=
  match date? cs with
  | some afterDate =>
    match (oneOf? ['T', 't', ' '] afterDate).bind time? with
    | some afterTime => some ((offset? afterTime).getD afterTime)
    | none => some afterDate
  | none => time? cs

/-- Reads a date, a time or both. -/
def datetime : Reader Value := fun cs =>
  (datetime? cs).map fun rest => (.datetime (lexeme cs rest), rest)

end TypeFamily.Toml
