import CourseCatalog.CommandLine.Basic
import CourseCatalog.CommandLine.Reply
import CourseCatalog.Number.Reading
/-!
# Reading a command line

Arguments are read from left to right. At each place the grammar tells which commands,
options and positions there are. An option without its value waits for the next
argument; what has been given is checked only when the next thing is met or the
arguments end. A command reads all arguments that follow its name, so its faults come
before those of the place in front of it.
-/

namespace CourseCatalog.CommandLine

/-! ## Grammar -/

/-- A place in the grammar: in front of all commands, or after a command. -/
inductive Scope
  | program
  | course
  | courses
  | majors
  | colleges
  | faculty
  | prereqs
  | requires
  | org
  | parse
  | config
  | configShow
  | configTemplate
  | configPath
  | completion
  deriving DecidableEq, Repr

/-- What an argument gives. -/
inductive Key
  | verbosity
  | dataset
  | config
  | college
  | major
  | name
  | credits
  | tree
  | distinct
  | position (n : Nat)
  deriving DecidableEq, Repr

/-- What a value must be. -/
inductive Form
  | text
  | path
  | number
  | shell
  deriving DecidableEq, Repr

/-- What an option does. -/
inductive Effect
  /-- It takes a value. -/
  | value (key : Key)
  /-- It stands alone. -/
  | flag (key : Key)
  /-- It asks for a reply. -/
  | reply (r : Reply)

/-- What a value of a form may not be. -/
def Form.check : Form → String → Except Reply Unit
  | text, _ => .ok ()
  | path, s => if s = "" then .error .invalidValue else .ok ()
  | number, s => if (floatOfText? s).isSome then .ok () else .error .malformedNumber
  | shell, s => if (Shell.ofName? s).isSome then .ok () else .error .invalidValue

namespace Scope

/-- The commands that can follow. -/
def commands : Scope → List (String × Scope)
  | program => [("course", course), ("courses", courses), ("majors", majors), ("colleges", colleges),
      ("faculty", faculty), ("prereqs", prereqs), ("requires", requires), ("org", org), ("parse", parse),
      ("config", config), ("completion", completion)]
  | config => [("show", configShow), ("template", configTemplate), ("path", configPath)]
  | _ => []

/-- Where commands follow, so does the word for help on them. -/
def isHelpWord (scope : Scope) (word : String) : Bool :=
  !scope.commands.isEmpty && word == "help"

/-- The forms of the positions. -/
def positions : Scope → List Form
  | course | faculty | prereqs | org | parse => [.text]
  | requires => [.text, .text]
  | completion => [.shell]
  | _ => []

/-- The options of one place only. -/
def ownOptions : Scope → List (String × Effect)
  | courses => [("college", .value .college), ("major", .value .major), ("name", .value .name),
      ("credits", .value .credits)]
  | majors => [("college", .value .college), ("name", .value .name)]
  | colleges => [("tree", .flag .tree)]
  | prereqs => [("distinct", .flag .distinct)]
  | _ => []

/-- The options of every place. -/
def sharedOptions : List (String × Effect) :=
  [("debug", .flag .verbosity), ("dataset", .value .dataset), ("config", .value .config),
    ("help", .reply .help), ("version", .reply .version)]

/-- The option of a name. -/
def option? (scope : Scope) (name : String) : Option Effect :=
  (scope.ownOptions ++ sharedOptions).lookup name

/-- The form of what an argument gives. -/
def form (scope : Scope) : Key → Form
  | .dataset | .config => .path
  | .credits => .number
  | .position n => scope.positions.getD n .text
  | _ => .text

end Scope

/-- The option of a letter. -/
def letter? : Char → Option Effect
  | 'd' => some (.flag .verbosity)
  | 'h' => some (.reply .help)
  | 'V' => some (.reply .version)
  | _ => none

/-- Only the verbosity adds up. -/
def Key.repeats (key : Key) : Bool :=
  key = .verbosity

/-! ## Arguments -/

/-- The shapes of arguments. -/
inductive Argument
  /-- Two hyphens: positions only from here on. -/
  | divider
  /-- An option by its name, perhaps with a value after an equals sign. -/
  | named (name : String) (value : Option String)
  /-- Options by their letters. -/
  | letters (cs : List Char)
  /-- Anything else. -/
  | word (text : String)

/-- The shape of an argument. -/
def Argument.of (arg : String) : Argument :=
  match arg.toList with
  | '-' :: '-' :: [] => divider
  | '-' :: '-' :: rest =>
    let name := rest.takeWhile (· != '=')
    match rest.dropWhile (· != '=') with
    | _ :: value => named (String.ofList name) (some (String.ofList value))
    | [] => named (String.ofList name) none
  | '-' :: c :: rest => letters (c :: rest)
  | _ => word arg

/-! ## Progress at one place -/

/-- What has been read at one place. The newest argument is pending until the next thing is met;
an option that waits for its value is pending without one. -/
structure Progress where
  given : List (Key × String) := []
  pending : Option (Key × Option String) := none
  position : Nat := 0
  divided : Bool := false

namespace Progress

/-- Keeps what an argument gives. -/
def keep (scope : Scope) (p : Progress) (key : Key) (value : String) : Except Reply Progress := do
  if !key.repeats && p.given.any (·.1 == key) then .error .repeated
  (scope.form key).check value
  .ok { p with given := p.given ++ [(key, value)] }

/-- Keeps what is pending. -/
def settle (scope : Scope) (p : Progress) : Except Reply Progress :=
  match p.pending with
  | none => .ok p
  | some (_, none) => .error .invalidValue
  | some (key, some value) => { p with pending := none }.keep scope key value

/-- The key that waits for a value. -/
def awaited? (p : Progress) : Option Key :=
  match p.pending with
  | some (key, none) => some key
  | _ => none

/-- An option, perhaps with its value. -/
def option (scope : Scope) (p : Progress) (effect : Option Effect) (value : Option String) :
    Except Reply Progress :=
  match effect, value with
  | none, _ => .error .unknownArgument
  | some (.value key), some v => do
    let p ← p.settle scope
    p.keep scope key v
  | some (.value key), none => do
    let p ← p.settle scope
    .ok { p with pending := some (key, none) }
  | some (.flag _), some _ => .error .surplusValue
  | some (.reply _), some _ => .error .surplusValue
  | some (.flag key), none => do
    let p ← p.settle scope
    p.keep scope key ""
  | some (.reply r), none => do
    let _ ← p.settle scope
    .error r

/-- Options by their letters. -/
def letters (scope : Scope) (p : Progress) : List Char → Except Reply Progress
  | [] => .ok p
  | c :: rest => do
    let p ← p.option scope (letter? c) none
    letters scope p rest

/-- An argument by its position. -/
def positional (scope : Scope) (p : Progress) (text : String) : Except Reply Progress :=
  if p.position < scope.positions.length then do
    let p ← p.settle scope
    .ok { p with pending := some (.position p.position, some text), position := p.position + 1 }
  else if scope.commands.isEmpty then .error .unknownArgument
  else if p.divided && (scope.isHelpWord text || (scope.commands.lookup text).isSome) then .error .unknownArgument
  else .error .unknownCommand

end Progress

/-! ## Commands -/

/-- The value of a key. -/
def value? (given : List (Key × String)) (key : Key) : Option String :=
  given.lookup key

/-- A flag was given. -/
def flagged (given : List (Key × String)) (key : Key) : Bool :=
  (value? given key).isSome

/-- The value of a position. -/
def argument (given : List (Key × String)) (n : Nat) : Except Reply String :=
  match value? given (.position n) with
  | some s => .ok s
  | none => .error .missingArgument

/-- The command of a place where the arguments end. -/
def Scope.command (scope : Scope) (given : List (Key × String)) : Except Reply Command :=
  match scope with
  | program => .ok .overview
  | course => return .query (.course (← argument given 0))
  | courses => .ok (.query (.courses {
      college := value? given .college
      major := value? given .major
      name := value? given .name
      credits := (value? given .credits).bind floatOfText? }))
  | majors => .ok (.query (.majors (value? given .college) (value? given .name)))
  | colleges => .ok (.query (.colleges (flagged given .tree)))
  | faculty => return .query (.faculty (← argument given 0))
  | prereqs => return .query (.prerequisites (← argument given 0) (flagged given .distinct))
  | requires => return .query (.requires (← argument given 0) (← argument given 1))
  | org => return .query (.organization (← argument given 0))
  | parse => return .parse (← argument given 0)
  | config => if given.isEmpty then .error .nothingGiven else .error .missingCommand
  | configShow => .ok .showSettings
  | configTemplate => .ok .settingsTemplate
  | configPath => .ok .settingsPath
  | completion => do
    let name ← argument given 0
    match Shell.ofName? name with
    | some shell => .ok (.completion shell)
    | none => .error .invalidValue

/-- The command with the shared options that were given at its own place. -/
def invocation (given : List (Key × String)) (command : Command) : Invocation where
  verbosity := given.countP (·.1 == .verbosity)
  dataset := value? given .dataset
  config := value? given .config
  command := command

/-- Shared options that were given in front of the command hold where the command gives none. -/
def under (given : List (Key × String)) (i : Invocation) : Invocation where
  verbosity := if i.verbosity = 0 then given.countP (·.1 == .verbosity) else i.verbosity
  dataset := i.dataset.or (value? given .dataset)
  config := i.config.or (value? given .config)
  command := i.command

/-- Help on the command that the words name. -/
def helpOn (scope : Scope) : List String → Reply
  | [] => .help
  | name :: rest =>
    if scope.isHelpWord name then if rest.isEmpty then .help else .unknownCommand
    else match scope.commands.lookup name with
      | some sub => helpOn sub rest
      | none => .unknownCommand

/-- Reads on at a place. -/
def readAt (scope : Scope) (p : Progress) : List String → Except Reply Invocation
  | [] => do
    let p ← p.settle scope
    let command ← scope.command p.given
    .ok (invocation p.given command)
  | arg :: rest =>
    if p.divided then do
      let p ← p.positional scope arg
      readAt scope p rest
    else match Argument.of arg with
      | .divider => readAt scope { p with divided := true } rest
      | .named name value => do
        let p ← p.option scope (scope.option? name) value
        readAt scope p rest
      | .letters cs => do
        let p ← p.letters scope cs
        readAt scope p rest
      | .word text =>
        match p.awaited? with
        | some key => readAt scope { p with pending := some (key, some text) } rest
        | none =>
          if scope.isHelpWord text then .error (helpOn scope rest)
          else match scope.commands.lookup text with
            | some sub => do
              let inner ← readAt sub {} rest
              let p ← p.settle scope
              .ok (under p.given inner)
            | none => do
              let p ← p.positional scope text
              readAt scope p rest

/-- The invocation that a command line asks for. -/
def read (args : List String) : Except Reply Invocation :=
  readAt .program {} args

end CourseCatalog.CommandLine
