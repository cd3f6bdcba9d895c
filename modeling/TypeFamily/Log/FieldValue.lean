import TypeFamily.Pattern.Basic

/-!
Values that a filter asks of a field: numbers, truth values and patterns. As patterns read truth
values and all numbers too but those with a plus sign in front, only numbers are told apart here.
-/

namespace TypeFamily.FieldValue

/-- Passes over a sign. -/
def skipSign : List Char → List Char
  | '+' :: cs => cs
  | '-' :: cs => cs
  | cs => cs

/-- Whether there are digits and nothing else. -/
def isWhole (cs : List Char) : Bool :=
  !cs.isEmpty && cs.all (·.isDigit)

/-- Whether there is nothing or an exponent. -/
def isExponent : List Char → Bool
  | [] => true
  | c :: cs => (c = 'e' || c = 'E') && isWhole (skipSign cs)

/-- Whether there is a number without a sign: digits, among which a point may stand, and perhaps an
exponent. -/
def isDecimal (cs : List Char) : Bool :=
  let rest := cs.dropWhile (·.isDigit)
  match rest with
  | '.' :: fraction =>
    (cs.head?.any (·.isDigit) || fraction.head?.any (·.isDigit)) &&
      isExponent (fraction.dropWhile (·.isDigit))
  | _ => cs.head?.any (·.isDigit) && isExponent rest

/-- Whether there is a number, infinity and what is no number included. -/
def isNumber (cs : List Char) : Bool :=
  let magnitude := skipSign cs
  isDecimal magnitude ||
    (String.ofList magnitude).toLower ∈ ["inf", "infinity", "nan"]

/-- Whether a text is a value that can be asked of a field. -/
def isReadable (cs : List Char) : Bool :=
  isNumber cs || Pattern.isReadable cs

example : ["+1", "-.5", "5.e+3", "+Inf", "+nan"].map (isNumber ·.toList) =
    List.replicate 5 true := by cbv

example : ["", "+", ".", "e5", "1e", "++1", "+1_0"].map (isNumber ·.toList) =
    List.replicate 7 false := by cbv

end TypeFamily.FieldValue
