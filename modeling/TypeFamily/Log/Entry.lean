import TypeFamily.Text.Align

/-!
Log entries: a level, a message and fields, written on one line after the time. An entry comes from
a part of the program, which is not written but can be asked for.
-/

namespace TypeFamily

/-- How weighty an entry is, the weightiest first. -/
inductive LogLevel where
  | error
  | warn
  | info
  | debug
  | trace
deriving DecidableEq, Repr

namespace LogLevel

/-- A level asks for the entries of all levels down to its own depth. -/
def depth : LogLevel → Nat
  | error => 1
  | warn => 2
  | info => 3
  | debug => 4
  | trace => 5

def name : LogLevel → String
  | error => "ERROR"
  | warn => "WARN"
  | info => "INFO"
  | debug => "DEBUG"
  | trace => "TRACE"

/-- Every level, the weightiest first. -/
def all : List LogLevel :=
  [error, warn, info, debug, trace]

end LogLevel

/-- The parts of the program that have something to tell. -/
inductive LogPart where
  | commands
  | manifest
  | hierarchy
  | registration
  | resolution
  | validation
  | loading
deriving DecidableEq, Repr

/-- The name by which a filter knows a part. -/
def LogPart.name : LogPart → String
  | commands => "polyreg::commands"
  | manifest => "polyreg_config"
  | hierarchy => "polyreg_core::hierarchy"
  | registration => "polyreg_registry::factory"
  | resolution => "polyreg_registry::resolve"
  | validation => "polyreg_registry::validate"
  | loading => "polyreg_registry::loader"

/-- One thing worth telling about a run. -/
structure LogEntry where
  part : LogPart
  level : LogLevel
  message : String
  fields : List (String × String)
deriving DecidableEq, Repr

namespace LogEntry

/-- The digits of a code point, with small letters. -/
def hexDigits (c : Char) : List Char :=
  Nat.toDigits 16 c.toNat

/-- One character of a message. Those that a terminal could take for a command are spelled out. -/
def harmless (c : Char) : List Char :=
  match c with
  | '\x07' | '\x08' | '\x0c' => ['\\', 'x', '0'] ++ hexDigits c
  | '\x1b' | '\x7f' => ['\\', 'x'] ++ hexDigits c
  | c =>
    if 0x80 ≤ c.toNat ∧ c.toNat < 0xA0 then ['\\', 'u', '\x7b'] ++ hexDigits c ++ ['\x7d'] else [c]

/-- The message as a line shows it. -/
def shownMessage (e : LogEntry) : String :=
  String.ofList (e.message.toList.flatMap harmless)

/-- The line of an entry: the time, the level in five columns, the message, the fields as they
are. -/
def line (time : String) (e : LogEntry) : String :=
  " ".intercalate ([time, Text.pad .right 5 e.level.name, e.shownMessage] ++
    e.fields.map fun (key, value) => key ++ "=" ++ value) ++ "\n"

example : "\x1b[1m\x0c\x7f".toList.flatMap harmless = "\\x1b[1m\\x0c\\x7f".toList := by cbv

end LogEntry

end TypeFamily
