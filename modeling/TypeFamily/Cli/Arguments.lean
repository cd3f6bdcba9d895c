/-!
The command line: what it asks for, and how its words are read.

A command line has levels: the program, a command, and for some commands a subcommand. Every level
takes options of its own and the two that all levels share, once each; where a shared option stands
on several levels the innermost counts. A level that has commands takes no other words. After two
dashes on their own no word is an option or a command.
-/

namespace TypeFamily.Cli

/-- What can be asked of a registry. -/
inductive Query where
  | check (json : Bool)
  | types
  | resolve (type : String)
  | views (type : String)
  | create (type name parent : String)
deriving DecidableEq, Repr

/-- What a run is asked to do. -/
inductive Command where
  | version
  | init (force : Bool)
  | manifestPath
  | manifestShow
  | ask (q : Query)
deriving DecidableEq, Repr

/-- A command line that makes sense. -/
structure Invocation where
  manifest : Option String := none
  verbose : Bool := false
  command : Command
deriving DecidableEq, Repr

/-- What an option is for. -/
inductive OptionUse where
  /-- It is there or it is not. -/
  | flag
  /-- A value belongs to it. -/
  | value
  /-- It asks for the version, and no more words are read. -/
  | version
deriving DecidableEq, Repr

/-- An option by its long name, and its letter if it has one. -/
structure OptionSpec where
  name : String
  letter : Option Char
  use : OptionUse
deriving DecidableEq, Repr

/-- What a level understands. -/
structure Level where
  options : List OptionSpec
  commands : List String
deriving Repr

/-- A level with options of its own, beside those that all levels share, and commands below it. -/
def Level.of (own : List OptionSpec) (commands : List String) : Level :=
  ⟨[⟨"manifest", some 'm', .value⟩, ⟨"verbose", some 'v', .flag⟩] ++ own, commands⟩

def programLevel : Level :=
  .of [⟨"version", some 'V', .version⟩]
    ["init", "check", "types", "resolve", "views", "create", "manifest"]

/-- The level of a command. -/
def commandLevel (command : String) : Level :=
  match command with
  | "init" => .of [⟨"force", none, .flag⟩] []
  | "check" => .of [⟨"json", none, .flag⟩] []
  | "create" => .of [⟨"name", some 'n', .value⟩, ⟨"parent", some 'p', .value⟩] []
  | "manifest" => .of [] ["path", "show"]
  | _ => .of [] []

/-- What a level was given. -/
structure Given where
  options : List (String × String) := []
  values : List String := []
deriving DecidableEq, Repr

namespace Given

def has (g : Given) (name : String) : Bool :=
  (g.options.lookup name).isSome

/-- An option is given once on a level, and the manifest is never the empty path. -/
def addOption (g : Given) (name value : String) : Option Given :=
  if g.has name ∨ (name = "manifest" ∧ value = "") then none
  else some { g with options := g.options ++ [(name, value)] }

def addValue (g : Given) (value : String) : Given :=
  { g with values := g.values ++ [value] }

end Given

/-- What reading one word of options leads to. -/
inductive Step where
  /-- Go on with what is given now. -/
  | next (g : Given)
  /-- Go on, and take the next word as the value of an option. -/
  | wait (g : Given) (name : String)
  /-- The version is asked for. -/
  | version

/-- Reads an option by its long name, with the value after an equals sign if there is one. -/
def longOption (level : Level) (g : Given) (word : List Char) : Option Step := do
  let name := String.ofList (word.takeWhile (· ≠ '='))
  let spec ← level.options.find? (·.name = name)
  match spec.use, word.dropWhile (· ≠ '=') with
  | .flag, [] => return .next (← g.addOption name "")
  | .value, [] => return .wait g name
  | .value, _ :: value => return .next (← g.addOption name (String.ofList value))
  | .version, [] => return .version
  | _, _ => none

/-- Reads options by their letters; the first that takes a value takes what is left of the word,
with or without an equals sign before it. -/
def shortOptions (level : Level) (g : Given) : List Char → Option Step
  | [] => some (.next g)
  | c :: cs => do
    let spec ← level.options.find? (·.letter = some c)
    match spec.use, cs with
    | .flag, cs => shortOptions level (← g.addOption spec.name "") cs
    | .value, [] => return .wait g spec.name
    | .value, '=' :: value => return .next (← g.addOption spec.name (String.ofList value))
    | .value, value => return .next (← g.addOption spec.name (String.ofList value))
    | .version, _ => return .version

/-- How far the words of one level go. -/
inductive Reading where
  /-- To the end. -/
  | all (g : Given)
  /-- To a command, with the words that are left for it. -/
  | command (g : Given) (name : String) (rest : List String)
  /-- To where the version is asked for. -/
  | version

/-- What kind of word a word looks like. -/
inductive WordShape where
  | dashes
  | long (name : List Char)
  | short (letters : List Char)
  | plain
deriving DecidableEq, Repr

/-- A dash on its own is a plain word. -/
def WordShape.of (word : String) : WordShape :=
  match word.toList with
  | ['-', '-'] => dashes
  | '-' :: '-' :: name => long name
  | '-' :: c :: letters => short (c :: letters)
  | _ => plain

/-- Reads the words of a level once two dashes have passed: all of them are values. -/
def readValues (g : Given) (words : List String) : Reading :=
  .all (words.foldl Given.addValue g)

/-- Reads the words of one level. An option may be waiting for its value, which must not look like
an option itself. -/
def readLevel (level : Level) (g : Given) (waiting : Option String) :
    List String → Option Reading
  | [] => if waiting.isSome then none else some (.all g)
  | word :: rest =>
    match waiting, WordShape.of word with
    | some name, .plain => do readLevel level (← g.addOption name word) none rest
    | some _, _ => none
    | none, shape =>
      if word ∈ level.commands then some (.command g word rest)
      else
        match shape with
        | .dashes => some (readValues g rest)
        | .long name => longOption level g name >>= go level rest
        | .short letters => shortOptions level g letters >>= go level rest
        | .plain =>
          if level.commands.isEmpty then readLevel level (g.addValue word) none rest else none
where
  /-- Goes on after a word of options. -/
  go (level : Level) (rest : List String) : Step → Option Reading
    | .next g => readLevel level g none rest
    | .wait g name => readLevel level g (some name) rest
    | .version => some .version

/-- The command that a level's values and options make. -/
def command? (path : List String) (g : Given) : Option Command :=
  match path, g.values with
  | ["init"], [] => some (.init (g.has "force"))
  | ["check"], [] => some (.ask (.check (g.has "json")))
  | ["types"], [] => some (.ask .types)
  | ["resolve"], [type] => some (.ask (.resolve type))
  | ["views"], [type] => some (.ask (.views type))
  | ["create"], [type] =>
    (g.options.lookup "name").map fun name =>
      .ask (.create type name ((g.options.lookup "parent").getD ""))
  | ["manifest", "path"], [] => some .manifestPath
  | ["manifest", "show"], [] => some .manifestShow
  | _, _ => none

/-- A command with the shared options of all levels, innermost first. -/
def invocation? (path : List String) (levels : List Given) : Option Invocation := do
  let shared := levels.flatMap (·.options)
  return {
    manifest := shared.lookup "manifest"
    verbose := (shared.lookup "verbose").isSome
    command := ← command? path (← levels.head?) }

/-- What a command line asks for; nothing if it makes no sense. -/
def Invocation.ofWords? (words : List String) : Option Invocation := do
  match ← readLevel programLevel {} none words with
  | .version => return { command := .version }
  | .all _ => none
  | .command top command words =>
    match ← readLevel (commandLevel command) {} none words with
    | .version => none
    | .all inner => invocation? [command] [inner, top]
    | .command inner subcommand words =>
      match ← readLevel (commandLevel subcommand) {} none words with
      | .all last => invocation? [command, subcommand] [last, inner, top]
      | _ => none

end TypeFamily.Cli
