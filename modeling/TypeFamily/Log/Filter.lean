import TypeFamily.Log.Entry
import TypeFamily.Log.FieldValue
import TypeFamily.Text.Blank
import TypeFamily.Text.Bytes

/-!
Filters, which say what of a log is shown. A filter is written as rules set apart by commas. A rule
is a level, or the beginning of the name of a part and after an equals sign a level for it; between
the two there may be, in brackets and braces, a field that an entry must have, and after an equals
sign a value for it. Of the rules that an entry meets, the one that asks for most decides.
-/

namespace TypeFamily

/-- How deep to show entries; nothing is shown at all when there is no level. -/
abbrev LogDepth : Type :=
  Option LogLevel

namespace LogDepth

/-- The depths by their names. -/
def names : List (String × LogDepth) :=
  ("OFF", none) :: LogLevel.all.map fun level => (level.name, some level)

/-- The value of a numeral in decimal digits, which may have a plus sign before it. -/
def numeral? (word : List Char) : Option Nat :=
  let digits :=
    match word with
    | '+' :: digits => digits
    | digits => digits
  if digits.isEmpty ∨ !digits.all (·.isDigit) then none
  else some (digits.foldl (fun n c => 10 * n + (c.toNat - 0x30)) 0)

/-- The depth that a word means: by its name in letters of either case, or by its place among the
names. -/
def ofWord? (word : List Char) : Option LogDepth :=
  match numeral? word with
  | some n => (names[n]?).map (·.2)
  | none => names.lookup (String.ofList word).toUpper

/-- The depth after an equals sign: as deep as can be, if nothing is said. -/
def afterEquals? (word : List Char) : Option LogDepth :=
  if word.isEmpty then some (some .trace) else ofWord? word

end LogDepth

/-- A rule of a filter. -/
structure LogRule where
  depth : LogDepth := some .trace
  /-- The beginning of the name of the part that an entry must come from. -/
  part : Option String := none
  /-- A field that an entry must have. -/
  field : Option String := none
deriving DecidableEq, Repr

namespace LogRule

/-- Whether a rule is about an entry. The message is a field as well. -/
def concerns (r : LogRule) (e : LogEntry) : Bool :=
  r.part.all (fun start => start.toList.isPrefixOf e.part.name.toList) &&
    r.field.all fun key => key = "message" ∨ e.fields.any (·.1 = key)

/-- Whether a rule shows the entries of a level. -/
def shows (r : LogRule) (level : LogLevel) : Bool :=
  r.depth.any fun deepest => level.depth ≤ deepest.depth

/-- How much a rule asks for: a long name more than a short one, any name more than none. -/
def reach (r : LogRule) : Nat :=
  match r.part with
  | some start => start.utf8ByteSize + 1
  | none => 0

/-- Whether a rule asks for at least as much as another that is about the same entry. -/
def isAtLeast (r s : LogRule) : Bool :=
  s.reach < r.reach ∨ s.reach = r.reach ∧ s.field.getD "" ≤ r.field.getD ""

/-- The characters that the name of a part may start with. -/
def startsName (c : Char) : Bool :=
  if c ∈ ['-', ':', '_'] then true else Text.isAlphanumeric c

/-- Reads the end of a rule, which may set its depth. In the text it comes after so many bytes. -/
def ending? (r : LogRule) (skipped : Nat) (shape text : List Char) : Option LogRule :=
  match shape with
  | [] => some r
  | '=' :: _ => do
    let (_, word) ← Text.splitAtByte? (skipped + 1) text
    let depth ← LogDepth.afterEquals? word
    return { r with depth }
  | _ => none

/-- Whether what is said of a field makes sense: there is something, and what stands between the
first equals sign and the second, if there is one, is a value. -/
def isField (said : List Char) : Bool :=
  !said.isEmpty &&
    match said.dropWhile (· ≠ '=') with
    | _ :: value => FieldValue.isReadable (value.takeWhile (· ≠ '='))
    | [] => true

/-- Reads a rule after its opening bracket. What is in the brackets may be a field; all else there
is about something that entries have not, a value of a field too, so that the rule is none for
them. -/
def bracketed? (r : LogRule) (shape text : List Char) : Option (Option LogRule) := do
  let name := shape.takeWhile fun c => c ≠ ']' ∧ c ≠ '\x7b'
  let (_, text) ← Text.splitAtByte? (Text.byteCount name) text
  match shape.drop name.length with
  | ']' :: shape =>
    let _ ← r.ending? 1 shape text
    return none
  | '\x7b' :: shape =>
    let (_, text) ← Text.splitAtByte? 1 text
    let field := shape.takeWhile (· ≠ '\x7d')
    let (said, text) ← Text.splitAtByte? (Text.byteCount field) text
    match shape.drop field.length with
    | '\x7d' :: ']' :: shape =>
      if !isField said then none
      let r ← { r with field := some (String.ofList said) }.ending? 2 shape text
      return if name.isEmpty ∧ '=' ∉ said then some r else none
    | _ => none
  | _ => none

/-- Reads a rule that starts with the name of a part. A word alone is a level or else such a
name. -/
def named? (shape text : List Char) : Option (Option LogRule) := do
  let name := shape.takeWhile fun c => c ≠ '=' ∧ c ≠ '['
  match shape.drop name.length with
  | [] =>
    match LogDepth.ofWord? text with
    | some depth => some (some { depth })
    | none => some (some { part := some (String.ofList text) })
  | shape =>
    let (part, text) ← Text.splitAtByte? (Text.byteCount name) text
    let r : LogRule := { part := some (String.ofList part) }
    match shape with
    | '[' :: shape =>
      let (_, text) ← Text.splitAtByte? 1 text
      r.bracketed? shape text
    | shape => (r.ending? 0 shape text).map some

/-- Reads a rule. Where one thing ends and the next begins is found on the text without the blanks
around it, but what they say is read from the same places of the text as it stands. These are
counted in bytes, and a rule for which one of them is in the middle of a character is unreadable. -/
def ofText? (text : List Char) : Option (Option LogRule) :=
  match Text.trimChars text with
  | [] => none
  | '[' :: shape => do
    let (_, text) ← Text.splitAtByte? 1 text
    { : LogRule }.bracketed? shape text
  | c :: shape => if startsName c then named? (c :: shape) text else none

example : ofText? "a=Debug".toList = some (some { depth := some .debug, part := some "a" }) := by
  cbv

example : ofText? "03".toList = some (some { depth := some .info }) := by cbv

example : ofText? " info".toList = some (some { part := some " info" }) := by cbv

example : ofText? "[\x7bfamily\x7d]=+4".toList =
    some (some { depth := some .debug, field := some "family" }) := by cbv

example : ofText? "!!".toList = none := by cbv

set_option maxRecDepth 8000 in
example : ofText? "[\x7bfamily=[\x7d]".toList = none := by cbv

set_option maxRecDepth 8000 in
example : ofText? "\u0085aa[\x7bb=(c\x7d]".toList = some none := by cbv

end LogRule

/-- Rules that are read together. -/
abbrev LogFilter : Type :=
  List LogRule

namespace LogFilter

/-- The rule that decides about an entry; a later one stands in for an earlier one like it. -/
def ruleFor? (f : LogFilter) (e : LogEntry) : Option LogRule :=
  (f.filter (·.concerns e)).foldl
    (fun best r => if best.all r.isAtLeast then some r else best) none

/-- Whether a filter lets an entry through. -/
def shows (f : LogFilter) (e : LogEntry) : Bool :=
  (f.ruleFor? e).any (·.shows e.level)

/-- Shows everything down to a level. -/
def upTo (level : LogLevel) : LogFilter :=
  [{ depth := some level }]

/-- Reads a filter. One rule that makes no sense spoils it. -/
def ofString? (s : String) : Option LogFilter :=
  (((s.splitOn ",").filter (· ≠ "")).mapM fun rule => LogRule.ofText? rule.toList).map
    fun rules => rules.filterMap id

end LogFilter

end TypeFamily
