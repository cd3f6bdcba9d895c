/-!
Paths as they are spelled. What stands between the slashes is kept, blanks and dots included, since
the length of a path counts them, and a slash or a dot at the end changes what may stand there.
-/

namespace TypeFamily.Cli

/-- A path taken apart at its slashes. -/
structure Path where
  parts : List String
deriving DecidableEq, Repr

namespace Path

def ofString (s : String) : Path :=
  ⟨s.splitOn "/"⟩

/-- The path as it is spelled. -/
def text (p : Path) : String :=
  "/".intercalate p.parts

/-- The root is spelled as a slash, and so has two empty parts. -/
def isAbsolute (p : Path) : Bool :=
  match p.parts with
  | "" :: _ :: _ => true
  | _ => false

/-- The names on the way; nothing stands between slashes in a row. -/
def names (p : Path) : List String :=
  p.parts.filter (· ≠ "")

/-- A slash at the end asks for a directory. -/
def endsInSlash (p : Path) : Bool :=
  p.parts.getLast? = some ""

/-- The name that a path gives to what stands there; dots at the end are none. -/
def ownName? (p : Path) : Option String :=
  match p.names.getLast? with
  | some "." | some ".." | none => none
  | some name => some name

/-- A path that ends in a step to somewhere else. -/
def endsInStep (p : Path) : Bool :=
  match p.parts.getLast? with
  | some "" | some "." | none => false
  | some _ => true

/-- The beginnings of a path that end in a step, the shortest first. -/
def stages (p : Path) : List Path :=
  ((List.range p.parts.length).map fun n => ⟨p.parts.take (n + 1)⟩).filter endsInStep

/-- The paths above a path, the nearest first. What follows the last step does not make one. -/
def above (p : Path) : List Path :=
  p.stages.reverse.tail

example : (above ⟨[".", "a", "", "b", ".", "c", "."]⟩).map parts =
    [[".", "a", "", "b"], [".", "a"]] := by decide

end Path

end TypeFamily.Cli
