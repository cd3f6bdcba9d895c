import TypeFamily.Cli.FileTree
import TypeFamily.Log.Filter

/-!
What a run leaves behind: the texts it wrote to each stream with the log entries in between, the
exit code, and the files.
-/

namespace TypeFamily.Cli

/-- Something that a run wrote. Log entries share the stream of ordinary output. -/
inductive Piece where
  | log (e : LogEntry)
  | out (text : String)
  | err (text : String)
deriving DecidableEq, Repr

namespace Piece

/-- What a piece adds to ordinary output, if entries are shown as a filter asks. -/
def toOut (filter : LogFilter) (time : String) : Piece → String
  | log e => if filter.shows e then e.line time else ""
  | out text => text
  | err _ => ""

/-- What a piece adds to the error stream. -/
def toErr : Piece → String
  | err text => text
  | _ => ""

/-- Lines of ordinary output. -/
def lines (texts : List String) : List Piece :=
  texts.map fun text => out (text ++ "\n")

end Piece

/-- How a run ended. -/
structure Outcome where
  exit : Nat := 0
  pieces : List Piece := []
  files : FileTree

namespace Outcome

/-- The ordinary output. -/
def stdout (o : Outcome) (filter : LogFilter) (time : String) : String :=
  String.join (o.pieces.map (·.toOut filter time))

/-- The error output. -/
def stderr (o : Outcome) : String :=
  String.join (o.pieces.map (·.toErr))

/-- A run that ends with an error, shown by its inspection text. -/
def failed (files : FileTree) (pieces : List Piece) (inspected : String) : Outcome :=
  { exit := 1, pieces := pieces ++ [.err ("Error: " ++ inspected ++ "\n")], files }

end Outcome

end TypeFamily.Cli
