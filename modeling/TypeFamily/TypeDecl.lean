import TypeFamily.TypeName

/-!
Declarations of types: a name, the supertypes named by it, what kind of type it is, and whether its
shape is generated.
-/

namespace TypeFamily

/-- What a declared type is. -/
inductive TypeKind where
  | interface
  | abstract
  | concrete
deriving DecidableEq, Inhabited, Repr

namespace TypeKind

/-- The kind as a declaration is read aloud. -/
def phrase : TypeKind → String
  | interface => "interface"
  | abstract => "abstract class"
  | concrete => "class"

/-- The kind as manifests spell it. -/
def keyword : TypeKind → String
  | interface => "interface"
  | abstract => "abstract"
  | concrete => "concrete"

/-- Every kind, the one taken when none is given first. -/
def all : List TypeKind :=
  [interface, abstract, concrete]

/-- The kind that a manifest means by a word. -/
def ofKeyword? (word : String) : Option TypeKind :=
  all.find? (·.keyword = word)

theorem ofKeyword?_keyword (k : TypeKind) : ofKeyword? k.keyword = some k := by
  cases k <;> decide

/-- The inspection text of a kind. -/
def inspect : TypeKind → String
  | interface => "Interface"
  | abstract => "Abstract"
  | concrete => "Concrete"

end TypeKind

/-- A declared type with the supertypes it names, in the order it names them. -/
structure TypeDecl where
  name : TypeName
  supertypes : List TypeName := []
  kind : TypeKind := .interface
  managed : Bool := false
deriving DecidableEq, Inhabited, Repr

namespace TypeDecl

/-- Names one more supertype; one that is named already stays where it is. -/
def extending (d : TypeDecl) (supertype : TypeName) : TypeDecl :=
  if supertype ∈ d.supertypes then d
  else { d with supertypes := d.supertypes ++ [supertype] }

/-- A declaration spelled in text: every name is trimmed, and a supertype counts once. -/
def ofStrings (name : String) (kind : TypeKind) (supertypes : List String) (managed : Bool) :
    TypeDecl :=
  (supertypes.map TypeName.ofString).foldl extending { name := .ofString name, kind, managed }

def isConcrete (d : TypeDecl) : Bool :=
  d.kind = .concrete

/-- A declaration read aloud, such as "managed interface Ring extends Circle". -/
def phrase (d : TypeDecl) : String :=
  (if d.managed then "managed " else "") ++ d.kind.phrase ++ " " ++ d.name.text ++
    if d.supertypes.isEmpty then ""
    else " extends " ++ ", ".intercalate (d.supertypes.map (·.text))

/-- The inspection text of a declaration. -/
def inspect (d : TypeDecl) : String :=
  Text.Inspect.record "TypeDecl"
    [("name", d.name.inspect), ("supertypes", Text.Inspect.list (d.supertypes.map (·.inspect))),
      ("kind", d.kind.inspect), ("managed", toString d.managed)]

end TypeDecl

end TypeFamily
