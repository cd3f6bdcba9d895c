import TypeFamily.Text.Blank
import TypeFamily.Text.Inspect

/-!
Names of types and of those who register them.

A type is known by its name alone. A name read from text is trimmed, so that two spellings that
differ in white space at the ends name one type; a name taken over as it stands is not.
-/

namespace TypeFamily

/-- The name of a type, dotted where it has a namespace. -/
structure TypeName where
  text : String
deriving DecidableEq, Inhabited, Repr

namespace TypeName

/-- The name that a text spells: white space at its ends is not part of it. -/
def ofString (s : String) : TypeName :=
  ⟨Text.trim s⟩

/-- The names that trimming leaves alone. Every name read from text is one. -/
def Canonical (n : TypeName) : Prop :=
  ofString n.text = n

@[simp] theorem ofString_trim (s : String) : ofString (Text.trim s) = ofString s := by
  rw [ofString, Text.trim_trim, ofString]

theorem canonical_ofString (s : String) : (ofString s).Canonical :=
  ofString_trim s

/-- What follows the last dot, or all of it where there is no dot. -/
def simple (n : TypeName) : String :=
  String.ofList (n.text.toList.reverse.takeWhile (· ≠ '.')).reverse

def isEmpty (n : TypeName) : Bool :=
  n.text.isEmpty

example : (ofString " geo.Circle\n").simple = "Circle" := by cbv

/-- Names are ordered by code points. -/
instance : LE TypeName :=
  ⟨fun a b => a.text ≤ b.text⟩

instance (a b : TypeName) : Decidable (a ≤ b) :=
  inferInstanceAs (Decidable (a.text ≤ b.text))

instance : ToString TypeName :=
  ⟨text⟩

/-- The inspection text of a name. -/
def inspect (n : TypeName) : String :=
  Text.Inspect.wrapped "TypeName" (Text.Inspect.quoted n.text)

end TypeName

/-- Who made a registration, in their own words. -/
structure Source where
  text : String
deriving DecidableEq, Inhabited, Repr

namespace Source

instance : ToString Source :=
  ⟨text⟩

/-- The inspection text of a source. -/
def inspect (s : Source) : String :=
  Text.Inspect.wrapped "Source" (Text.Inspect.quoted s.text)

end Source

end TypeFamily
