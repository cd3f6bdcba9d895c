import TypeFamily.Cli.Path

/-!
Files and directories as a run finds and leaves them. A place is a list of names from the working
directory, or from the root if the first of them is a slash. Paths lead to places name by name, and
what is wrong with the first name that leads nowhere is what is wrong with the path.
-/

namespace TypeFamily.Cli

/-- What stands at a place. -/
inductive Node where
  | file (bytes : Array UInt8)
  | directory
deriving DecidableEq, Repr

/-- Why the system refuses to touch a file. -/
inductive FileError where
  | notFound
  | alreadyExists
  | notADirectory
  | isADirectory
  | nameTooLong
deriving DecidableEq, Repr

namespace FileError

/-- The number by which the system knows the error. -/
def code : FileError → Nat
  | notFound => 2
  | alreadyExists => 17
  | notADirectory => 20
  | isADirectory => 21
  | nameTooLong => 36

/-- The name of the kind of error. -/
def kind : FileError → String
  | notFound => "NotFound"
  | alreadyExists => "AlreadyExists"
  | notADirectory => "NotADirectory"
  | isADirectory => "IsADirectory"
  | nameTooLong => "InvalidFilename"

/-- The error in the system's words. -/
def phrase : FileError → String
  | notFound => "No such file or directory"
  | alreadyExists => "File exists"
  | notADirectory => "Not a directory"
  | isADirectory => "Is a directory"
  | nameTooLong => "File name too long"

/-- The error in the system's words, with its number. -/
def message (e : FileError) : String :=
  e.phrase ++ " (os error " ++ toString e.code ++ ")"

end FileError

/-- A place, by the names that lead to it. -/
abbrev Place : Type :=
  List String

/-- What is known to stand where. -/
structure FileTree where
  nodes : List (Place × Node) := []

/-- Where a path starts. -/
def Path.start (p : Path) : Place :=
  if p.isAbsolute then ["/"] else []

namespace Place

/-- A place below the working directory. -/
def isInside (place : Place) : Bool :=
  match place with
  | "/" :: _ | ".." :: _ => false
  | _ => true

/-- The place that a name leads to from a directory. -/
def enter (place : Place) (name : String) : Except FileError Place :=
  if name = "." then .ok place
  else if name ≠ ".." then
    if 255 < name.utf8ByteSize then .error .nameTooLong else .ok (place ++ [name])
  else if place = ["/"] then .ok place
  else if place.all (· = "..") then .ok (place ++ [".."])
  else .ok place.dropLast

end Place

namespace FileTree

/-- Working directory, root, and whatever lies above them are directories. -/
def node? (t : FileTree) (place : Place) : Option Node :=
  if place.all fun name => name = ".." ∨ name = "/" then some .directory else t.nodes.lookup place

/-- The directory that names lead to from a directory. -/
def descend (t : FileTree) (place : Place) : List String → Except FileError Place
  | [] => .ok place
  | name :: names => do
    let below ← place.enter name
    match t.node? below with
    | some .directory => t.descend below names
    | some (.file _) => throw .notADirectory
    | none => throw .notFound

/-- The directory that the last name of a path is looked up in. A path of 4096 bytes is too long
wherever it leads, and the empty path leads nowhere. -/
def directoryOf (t : FileTree) (p : Path) : Except FileError Place :=
  if p.text = "" then .error .notFound
  else if 4096 ≤ p.text.utf8ByteSize then .error .nameTooLong
  else t.descend p.start p.names.dropLast

/-- What stands at a path. -/
def find (t : FileTree) (p : Path) : Except FileError Node := do
  let directory ← t.directoryOf p
  let place ←
    match p.names.getLast? with
    | some name => directory.enter name
    | none => pure directory
  match t.node? place with
  | some .directory => return .directory
  | some (.file bytes) => if p.endsInSlash then throw .notADirectory else return .file bytes
  | none => throw .notFound

/-- What stands at a path, if anything does. -/
def look? (t : FileTree) (path : String) : Option Node :=
  (t.find (.ofString path)).toOption

def put (t : FileTree) (place : Place) (node : Node) : FileTree :=
  ⟨(place, node) :: t.nodes.filter (·.1 ≠ place)⟩

/-- A tree with one more node, and directories above it where nothing stood. -/
def plant (t : FileTree) (place : Place) (node : Node) : FileTree :=
  let above := (List.range place.length).map place.take
  (above.foldl (fun t d => if (t.node? d).isSome then t else t.put d .directory) t).put place node

/-- Makes one directory. -/
def makeDirectory (t : FileTree) (p : Path) : Except FileError FileTree := do
  let directory ← t.directoryOf p
  match p.ownName? with
  | none => throw .alreadyExists
  | some name =>
    let place ← directory.enter name
    match t.node? place with
    | some _ => throw .alreadyExists
    | none => return t.put place .directory

/-- Makes a directory unless it is there. -/
def ensureDirectory (t : FileTree) (p : Path) : Except FileError FileTree :=
  match t.makeDirectory p with
  | .error .alreadyExists =>
    match t.find p with
    | .ok .directory => .ok t
    | _ => .error .alreadyExists
  | made => made

/-- Makes a directory and, as far as it takes them, those above it; the paths are given from the
nearest on. -/
def ensureDirectories (t : FileTree) : List Path → Except FileError FileTree
  | [] => .ok t
  | p :: above =>
    match t.ensureDirectory p with
    | .error .notFound => do (← t.ensureDirectories above).ensureDirectory p
    | made => made

/-- Writes a file, in place of the one that stood there. -/
def write (t : FileTree) (p : Path) (text : String) : Except FileError FileTree := do
  let directory ← t.directoryOf p
  match p.ownName? with
  | none => throw .isADirectory
  | some name =>
    if p.endsInSlash then throw .isADirectory
    let place ← directory.enter name
    match t.node? place with
    | some .directory => throw .isADirectory
    | _ => return t.put place (.file text.toUTF8.data)

/-- Writes a file, and makes the directories above it. -/
def writeDeep (t : FileTree) (path : String) (text : String) : Except FileError FileTree := do
  let p := Path.ofString path
  (← t.ensureDirectories p.above).write p text

/-- The places of the files of a tree that another did not have, or not with the same bytes, with
the bytes. -/
def changes (old new : FileTree) : List (Place × Array UInt8) :=
  new.nodes.filterMap fun (place, node) =>
    match node with
    | .file bytes => if old.nodes.lookup place = some node then none else some (place, bytes)
    | .directory => none

end FileTree

end TypeFamily.Cli
