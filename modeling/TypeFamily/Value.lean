/-!
Values as documents hold them: texts, numbers, truth values, dates, arrays and tables. A table keeps
its entries in the order they were given, each key once, and remembers how it came into the
document.
-/

namespace TypeFamily

/-- How a table came into a document, which decides what may still be added to it. -/
inductive TableOrigin where
  /-- Written out in braces: complete as it stands. -/
  | inline
  /-- Opened by a header of its own, or the document itself. -/
  | header
  /-- Passed through by the header of a table inside it. -/
  | implied
  /-- Made by a dotted key. -/
  | dotted
deriving DecidableEq, Repr

/-- What a key can hold. -/
inductive Value where
  | null
  | text (s : String)
  | integer (n : Int)
  /-- A number with a fraction or exponent, as it is written. -/
  | float (literal : String)
  | boolean (b : Bool)
  /-- A date, a time or both, as it is written. -/
  | datetime (literal : String)
  | array (items : List Value)
  | table (origin : TableOrigin) (entries : List (String × Value))
  /-- An array of tables that grows by one with every header of its name. -/
  | tables (items : List Value)
deriving Inhabited

/-- The keys and values of a table. -/
abbrev Entries : Type :=
  List (String × Value)

namespace Entries

/-- The value of a key. -/
def get? (es : Entries) (key : String) : Option Value :=
  es.lookup key

/-- Gives a key a value, in its old place if it had one. -/
def put (es : Entries) (key : String) (v : Value) : Entries :=
  match es with
  | [] => [(key, v)]
  | (k, old) :: rest => if k = key then (key, v) :: rest else (k, old) :: put rest key v

end Entries

end TypeFamily
