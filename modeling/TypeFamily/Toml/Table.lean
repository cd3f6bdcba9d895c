import TypeFamily.Value

/-!
How the tables of a TOML document grow. A dotted key makes the tables it leads through, a header
opens a table or adds one to an array of tables; nothing is ever given twice, and what is complete,
such as a table in braces, takes no more.
-/

namespace TypeFamily.Toml

/-- Whether a key may lead into a table that is there already. Nothing leads into a table in braces,
and a dotted key leads into no table that has a header of its own. -/
def isOpen (byDottedKey : Bool) : TableOrigin → Bool
  | .inline => false
  | .header => !byDottedKey
  | .implied => true
  | .dotted => true

/-- Changes the entries of the table that a path leads to. Tables on the way that are not there yet
are made; an array of tables leads into its last one. -/
def changeAt (byDottedKey : Bool) (change : TableOrigin → Entries → Option Entries) :
    (path : List String) → TableOrigin → Entries → Option Entries
  | [], origin, es => change origin es
  | k :: ks, _, es =>
    match es.get? k with
    | none =>
      let fresh : TableOrigin := if byDottedKey then .dotted else .implied
      (changeAt byDottedKey change ks fresh []).map fun sub => es.put k (.table fresh sub)
    | some (.table origin sub) =>
      if isOpen byDottedKey origin then
        (changeAt byDottedKey change ks origin sub).map fun sub => es.put k (.table origin sub)
      else none
    | some (.tables items) =>
      match items.getLast? with
      | some (.table origin sub) =>
        (changeAt byDottedKey change ks origin sub).map fun sub =>
          es.put k (.tables (items.dropLast ++ [.table origin sub]))
      | _ => none
    | some _ => none

/-- Gives a key that is not there yet its value. -/
def addNew (key : String) (v : Value) (es : Entries) : Option Entries :=
  match es.get? key with
  | none => some (es ++ [(key, v)])
  | some _ => none

/-- Adds what stands before and after one equals sign. The last part of a dotted key goes into a
table made by dotted keys, and a single key into any other. -/
def addEntry (origin : TableOrigin) (es : Entries) (path : List String) (v : Value) :
    Option Entries :=
  match path.getLast? with
  | none => none
  | some key =>
    changeAt true
      (fun found es => if found = .dotted ↔ path.dropLast ≠ [] then addNew key v es else none)
      path.dropLast origin es

/-- Adds keys with their values, one after the other. -/
def addEntries (origin : TableOrigin) (es : Entries) (items : List (List String × Value)) :
    Option Entries :=
  items.foldlM (fun es (path, v) => addEntry origin es path v) es

/-- The header of a section of a document. -/
inductive Header where
  /-- A table in single brackets. -/
  | table (path : List String)
  /-- One more table of an array, in double brackets. -/
  | tables (path : List String)
deriving DecidableEq, Repr

/-- A header and the keys up to the next one. -/
structure Section where
  header : Header
  items : List (List String × Value)

/-- Adds a section to the tables of a document. A header in single brackets opens a table that was
not there, or was only passed through. -/
def addSection (root : Entries) (s : Section) : Option Entries :=
  match s.header with
  | .table path =>
    path.getLast?.bind fun key =>
      changeAt false
        (fun _ es =>
          match es.get? key with
          | none => (addEntries .header [] s.items).map fun t => es.put key (.table .header t)
          | some (.table .implied old) =>
            (addEntries .header old s.items).map fun t => es.put key (.table .header t)
          | some _ => none)
        path.dropLast .header root
  | .tables path =>
    path.getLast?.bind fun key =>
      changeAt false
        (fun _ es =>
          match es.get? key with
          | none =>
            (addEntries .header [] s.items).map fun t => es.put key (.tables [.table .header t])
          | some (.tables items) =>
            (addEntries .header [] s.items).map fun t =>
              es.put key (.tables (items ++ [.table .header t]))
          | some _ => none)
        path.dropLast .header root

end TypeFamily.Toml
