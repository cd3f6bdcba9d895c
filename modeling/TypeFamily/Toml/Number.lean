import TypeFamily.Value
import TypeFamily.Toml.Quoted.Reader

/-!
Numbers in a TOML document. Between two digits an underscore may stand. Integers are those of 64
bits with a sign; a number with a fraction or an exponent is kept as it is written, and refused if
it is too large for a binary64.
-/

namespace TypeFamily.Toml

/-- The digits up to the first character that is neither a digit nor an underscore before one. -/
def digitRun (isDigit : Char → Bool) : List Char → List Char × List Char
  | [] => ([], [])
  | '_' :: c :: cs =>
    if isDigit c then
      let (ds, rest) := digitRun isDigit cs
      (c :: ds, rest)
    else ([], '_' :: c :: cs)
  | c :: cs =>
    if isDigit c then
      let (ds, rest) := digitRun isDigit cs
      (c :: ds, rest)
    else ([], c :: cs)

/-- At least one digit, and none but digits and underscores between them. -/
def digits (isDigit : Char → Bool) : Reader (List Char)
  | c :: cs =>
    if isDigit c then
      let (ds, rest) := digitRun isDigit cs
      some (c :: ds, rest)
    else none
  | [] => none

/-- A whole number that starts with zero only if it is zero. -/
def wholeDigits : Reader (List Char)
  | '0' :: cs => some (['0'], cs)
  | cs => digits Char.isDigit cs

/-- An optional sign; true if it is a minus. -/
def sign : List Char → Bool × List Char
  | '-' :: cs => (true, cs)
  | '+' :: cs => (false, cs)
  | cs => (false, cs)

/-- The number that digits spell. -/
def ofDigits (base : Nat) (ds : List Char) : Nat :=
  ds.foldl (fun n c => base * n + (Text.hexValue? c).getD 0) 0

/-- The first number that 64 bits with a sign cannot hold. -/
def integerBound : Int := 9223372036854775808

/-- An integer that 64 bits with a sign can hold. -/
def inRange? (n : Int) : Option Int :=
  if -integerBound ≤ n ∧ n < integerBound then some n else none

/-- An integer without a sign, in the base that the letter after its leading zero stands for. -/
def basedInteger (base : Nat) (isDigit : Char → Bool) : Reader Int := fun cs => do
  let (ds, rest) ← digits isDigit cs
  return (← inRange? (ofDigits base ds), rest)

/-- Reads an integer. -/
def integer : Reader Int
  | '0' :: 'x' :: cs => basedInteger 16 (fun c => (Text.hexValue? c).isSome) cs
  | '0' :: 'o' :: cs => basedInteger 8 (fun c => '0' ≤ c && c ≤ '7') cs
  | '0' :: 'b' :: cs => basedInteger 2 (fun c => c = '0' || c = '1') cs
  | cs => do
    let (minus, cs) := sign cs
    let (ds, rest) ← wholeDigits cs
    let n : Int := ofDigits 10 ds
    return (← inRange? (if minus then -n else n), rest)

/-- The fraction of a number: a point and at least one digit. -/
def fraction : Reader (List Char)
  | '.' :: cs => digits Char.isDigit cs
  | _ => none

/-- The exponent of a number. -/
def exponent : Reader Int
  | c :: cs =>
    if c = 'e' ∨ c = 'E' then do
      let (minus, cs) := sign cs
      let (ds, rest) ← digits Char.isDigit cs
      let n : Int := ofDigits 10 ds
      return (if minus then -n else n, rest)
    else none
  | [] => none

/-- Whether `m` times ten to the power `e` lies beyond the largest binary64 by half a unit or more.
The power is taken only where it is about as long as the number itself. -/
def isTooLarge (m : Nat) (e : Int) : Bool :=
  let bound := Nat.pow 2 1024 - Nat.pow 2 970
  if m = 0 then false
  else if 309 ≤ e then true
  else if 0 ≤ e then bound ≤ m * Nat.pow 10 e.toNat
  else if ((Nat.toDigits 10 m).length : Int) < -e then false
  else bound * Nat.pow 10 (-e).toNat ≤ m

/-- Reads a number with a fraction, an exponent or both. -/
def decimal : Reader Unit := fun cs => do
  let (minus, cs) := sign cs
  let (whole, rest) ← wholeDigits cs
  let (part, rest) := (fraction rest).getD ([], rest)
  let (power, rest) ←
    match exponent rest with
    | some (e, rest) => some (e, rest)
    | none => if part.isEmpty then none else some (0, rest)
  if !minus && isTooLarge (ofDigits 10 (whole ++ part)) (power - part.length) then none
  else some ((), rest)

/-- Reads one of the numbers that are words, with or without a sign. -/
def wordNumber : Reader Unit := fun cs =>
  match (sign cs).2 with
  | 'i' :: 'n' :: 'f' :: rest => some ((), rest)
  | 'n' :: 'a' :: 'n' :: rest => some ((), rest)
  | _ => none

/-- What was read of `cs` when `rest` is left. -/
def lexeme (cs rest : List Char) : String :=
  String.ofList (cs.take (cs.length - rest.length))

/-- Reads a number of any kind. -/
def number : Reader Value := fun cs =>
  match decimal cs, wordNumber cs, integer cs with
  | some ((), rest), _, _ => some (.float (lexeme cs rest), rest)
  | _, some ((), rest), _ => some (.float (lexeme cs rest), rest)
  | _, _, some (n, rest) => some (.integer n, rest)
  | _, _, _ => none

end TypeFamily.Toml
