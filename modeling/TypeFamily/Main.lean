import TypeFamily.Cli.Run
import TypeFamily.Text.Instant
import Std.Time.DateTime.Timestamp

/-!
The program: takes its surroundings from the system, runs the command, and hands on what it wrote.
-/

namespace TypeFamily.Cli

/-- A place as the system spells it. -/
def Place.spelling : Place → String
  | "/" :: names => "/" ++ "/".intercalate names
  | names => "/".intercalate names

/-- What stands at a path of the file system. -/
def probe (path : String) : IO (Option Node) := do
  try
    return some (.file (← IO.FS.readBinFile path).data)
  catch
    | .inappropriateType _ 21 _ => return some .directory
    | .noFileOrDirectory _ _ _ | .inappropriateType _ _ _ => return none
    | e => throw e

/-- The part of the file system that a path leads through. -/
def snapshot (path : String) : IO FileTree := do
  let p := Path.ofString path
  let mut place := p.start
  let mut nodes := []
  for name in p.names do
    match place.enter name with
    | .error _ => break
    | .ok below =>
      place := below
      if let some node ← probe place.spelling then
        nodes := (place, node) :: nodes
  return ⟨nodes⟩

/-- Brings the files of a run into the file system. -/
def store (changes : List (Place × Array UInt8)) : IO Unit :=
  for (place, bytes) in changes do
    if 1 < place.length then IO.FS.createDirAll (Place.spelling place.dropLast)
    IO.FS.writeBinFile place.spelling ⟨bytes⟩

end TypeFamily.Cli

open TypeFamily.Cli in
def main (words : List String) : IO UInt32 := do
  match Invocation.ofWords? words with
  | none =>
    IO.eprintln "Usage: polyreg [OPTIONS] <COMMAND>"
    return 2
  | some i =>
    let environment ← IO.getEnv "POLYREG_MANIFEST"
    let path := TypeFamily.Manifest.choosePath i.manifest environment
    let files ← snapshot path
    let now ← Std.Time.Timestamp.now
    let time := TypeFamily.Text.instant (now.toNanosecondsSinceUnixEpoch.val.toNat / 1000)
    let o := run { files, environment, time } i
    store (files.changes o.files)
    IO.print (o.stdout (logFilter (← IO.getEnv "RUST_LOG") i) time)
    IO.eprint o.stderr
    return o.exit.toUInt32
