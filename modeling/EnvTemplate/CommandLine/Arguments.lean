import EnvTemplate.CommandLine.Invocation

/-!
# Arguments

Reading a command line. Options come before the command, where only those that hold for every
command are known, and after it. An option is given by its long name, with its value after an
equals sign or as the next argument, or by its letter, with its value directly after the letter or
as the next argument; letters of switches may be put together. A value given as the next argument
is judged only when the next option comes or the arguments end. Of an option given before and after
the command, the one after it counts.
-/
namespace EnvTemplate.CommandLine

/-- Why a command line is refused. -/
inductive Refusal
  /-- An argument means nothing at its place. -/
  | unknownArgument
  /-- A value is missing or not allowed. -/
  | invalidValue
  /-- There is no such command. -/
  | invalidSubcommand
  /-- An option is given twice. -/
  | argumentConflict
  /-- A switch is given a value. -/
  | tooManyValues
deriving DecidableEq, Repr

/-- What a command line can come to besides an invocation. -/
inductive Stop
  /-- It is refused. -/
  | refused (reason : Refusal)
  /-- It asks for help. -/
  | help
  /-- It asks for the version of a program of the given name. -/
  | version (program : String)
deriving DecidableEq, Repr

/-- The options. -/
inductive OptionName
  /-- The settings file. -/
  | settings
  /-- Tell more. -/
  | verbose
  /-- Tell less. -/
  | quiet
  /-- Ask for help. -/
  | help
  /-- Ask for the version. -/
  | version
  /-- The template. -/
  | template
  /-- The grouping. -/
  | grouping
  /-- Disregard groups. -/
  | flat
  /-- The generated module. -/
  | output
  /-- Generate TypeScript. -/
  | ts
  /-- Generate a module in the way of CommonJS. -/
  | cjs
  /-- Overwrite an existing file. -/
  | force
  /-- The form of a report. -/
  | format
deriving DecidableEq, Repr

namespace OptionName

/-- The long name of an option. -/
def long : OptionName → String
  | settings => "config"
  | verbose => "verbose"
  | quiet => "quiet"
  | help => "help"
  | version => "version"
  | template => "example"
  | grouping => "group"
  | flat => "flat"
  | output => "output"
  | ts => "ts"
  | cjs => "cjs"
  | force => "force"
  | format => "format"

/-- The letter of an option, if it has one. -/
def letter? : OptionName → Option Char
  | verbose => some 'v'
  | quiet => some 'q'
  | help => some 'h'
  | version => some 'V'
  | template => some 'e'
  | output => some 'o'
  | force => some 'f'
  | _ => none

/-- Whether an option has a value; the others are switches. -/
def hasValue : OptionName → Bool
  | settings => true
  | template => true
  | grouping => true
  | output => true
  | format => true
  | _ => false

/-- Whether a value is allowed for an option: paths are not empty, and the forms of a report have
names. -/
def allows (option : OptionName) (value : String) : Bool :=
  match option with
  | template => !value.isEmpty
  | output => !value.isEmpty
  | format => value == "text" || value == "json"
  | _ => true

end OptionName

/-- The places of options: before the command, or after one of the commands. -/
inductive Level
  /-- Before the command. -/
  | top
  /-- After the command that generates a module. -/
  | init
  /-- After the command that checks a template. -/
  | check
  /-- After the command that tells the version. -/
  | version
deriving DecidableEq, Repr

namespace Level

/-- The options of every level. -/
def shared : List OptionName := [.settings, .verbose, .quiet, .help, .version]

/-- The options known at a level. -/
def options : Level → List OptionName
  | top => shared
  | init => shared ++ [.template, .grouping, .flat, .output, .ts, .cjs, .force]
  | check => shared ++ [.template, .grouping, .flat, .format]
  | version => shared

/-- The level of a command. -/
def ofName? (name : String) : Option Level :=
  match name with
  | "init" => some init
  | "check" => some check
  | "version" => some version
  | _ => none

/-- The name of the program as it tells its version. -/
def program : Level → String
  | top => "envus"
  | init => "envus-init"
  | check => "envus-check"
  | version => "envus-version"

/-- The option of a long name. -/
def long? (level : Level) (name : String) : Option OptionName :=
  level.options.find? fun option => option.long = name

/-- The option of a letter. -/
def letter? (level : Level) (letter : Char) : Option OptionName :=
  level.options.find? fun option => option.letter? = some letter

end Level

/-- The name of the command that gives help on commands. -/
def helpCommand : String := "help"

/-- The options given so far on one level. -/
structure Given where
  /-- The values. -/
  values : List (OptionName × String)
  /-- The switches. -/
  switches : List OptionName
  /-- How often more was asked for. -/
  verbosity : Nat
  /-- The option whose value is not judged yet, and the value once it is there. -/
  pending : Option (OptionName × Option String)
deriving DecidableEq, Repr

namespace Given

/-- No options. -/
def none : Given := ⟨[], [], 0, .none⟩

/-- Note a value. -/
def note (given : Given) (option : OptionName) (value : String) : Except Stop Given :=
  if (given.values.lookup option).isSome then .error (.refused .argumentConflict)
  else if option.allows value then .ok { given with values := (option, value) :: given.values }
  else .error (.refused .invalidValue)

/-- Judge the value that is not judged yet. -/
def settle (given : Given) : Except Stop Given :=
  match given.pending with
  | .none => .ok given
  | some (_, .none) => .error (.refused .invalidValue)
  | some (option, some value) => { given with pending := .none }.note option value

/-- Note a switch. -/
def switch (given : Given) (level : Level) (option : OptionName) : Except Stop Given := do
  let settled ← given.settle
  match option with
  | .help => .error .help
  | .version => .error (.version level.program)
  | .verbose => .ok { settled with verbosity := settled.verbosity + 1 }
  | _ =>
    if settled.switches.contains option then .error (.refused .argumentConflict)
    else .ok { settled with switches := option :: settled.switches }

/-- Note an option whose value, if it is not given with it, is to come. -/
def value (given : Given) (option : OptionName) (attached : Option String) :
    Except Stop Given := do
  let settled ← given.settle
  match attached with
  | some value => settled.note option value
  | .none => .ok { settled with pending := some (option, .none) }

/-- An option given by its long name, and the value after an equals sign. -/
def long (given : Given) (level : Level) (name : String) (attached : Option String) :
    Except Stop Given :=
  match level.long? name with
  | .none => .error (.refused .unknownArgument)
  | some option =>
    if option.hasValue then given.value option attached
    else if attached.isSome then .error (.refused .tooManyValues)
    else given.switch level option

/-- Options given by their letters. What follows the letter of an option with a value is that
value, with or without an equals sign. -/
def letters (given : Given) (level : Level) : List Char → Except Stop Given
  | [] => .ok given
  | letter :: rest =>
    match level.letter? letter with
    | .none => .error (.refused .unknownArgument)
    | some option =>
      if option.hasValue then
        given.value option <|
          match rest with
          | [] => .none
          | '=' :: value => some (String.ofList value)
          | value => some (String.ofList value)
      else
        match given.switch level option with
        | .error stop => .error stop
        | .ok later => later.letters level rest

/-- Whether a value is still to come. -/
def awaits (given : Given) : Bool :=
  match given.pending with
  | some (_, .none) => true
  | _ => false

/-- Give the value that is still to come. -/
def supply (given : Given) (value : String) : Given :=
  { given with pending := given.pending.map fun (option, _) => (option, some value) }

end Given

/-- What an argument that is not after two lone hyphens looks like. -/
inductive Shape
  /-- Two lone hyphens: no options follow. -/
  | escape
  /-- A long name, with the value after an equals sign. -/
  | long (name : String) (attached : Option String)
  /-- Letters. -/
  | letters (letters : List Char)
  /-- Anything else. -/
  | word
deriving DecidableEq, Repr

/-- The shape of an argument. -/
def Shape.of (argument : List Char) : Shape :=
  match argument with
  | ['-', '-'] => escape
  | '-' :: '-' :: rest =>
    let name := String.ofList (rest.takeWhile (· ≠ '='))
    match rest.dropWhile (· ≠ '=') with
    | _ :: value => long name (some (String.ofList value))
    | [] => long name none
  | '-' :: letter :: rest => letters (letter :: rest)
  | _ => word

/-- What the arguments of one level come to: the options, and the command with the arguments after
it. -/
structure LevelResult where
  /-- The options. -/
  given : Given
  /-- The command and the arguments after it. -/
  command : Option (Level × List String)

/-- How an argument that cannot stand at its place is refused. After two lone hyphens the name of a
command is no command. -/
def refuseWord (level : Level) (escaped : Bool) (argument : String) : Refusal :=
  if level = .top ∧
      ¬(escaped ∧ ((Level.ofName? argument).isSome ∨ argument = helpCommand)) then
    .invalidSubcommand
  else .unknownArgument

/-- What the help on the given commands comes to. -/
def helpOn : List String → Stop
  | [] => .help
  | [name] =>
    if (Level.ofName? name).isSome ∨ name = helpCommand then .help
    else .refused .invalidSubcommand
  | _ => .refused .invalidSubcommand

/-- Read the arguments of one level; `escaped` tells that two lone hyphens came before. -/
def readLevel (level : Level) (given : Given) (escaped : Bool) :
    List String → Except Stop LevelResult
  | [] => .ok ⟨given, none⟩
  | argument :: rest =>
    if escaped then .error (.refused (refuseWord level true argument))
    else
      match Shape.of argument.toList with
      | .escape => readLevel level given true rest
      | .long name attached =>
        match given.long level name attached with
        | .error stop => .error stop
        | .ok later => readLevel level later false rest
      | .letters letters =>
        match given.letters level letters with
        | .error stop => .error stop
        | .ok later => readLevel level later false rest
      | .word =>
        if given.awaits then readLevel level (given.supply argument) false rest
        else if level = .top ∧ argument = helpCommand then .error (helpOn rest)
        else
          match if level = .top then Level.ofName? argument else none with
          | some command => .ok ⟨given, some (command, rest)⟩
          | none => .error (.refused (refuseWord level false argument))

/-- Whether a switch is given. -/
def Given.has (given : Given) (option : OptionName) : Bool := given.switches.contains option

/-- The flags about a template. -/
def Given.templateFlags (given : Given) : TemplateFlags where
  template := given.values.lookup .template
  grouping := given.values.lookup .grouping
  flat := given.has .flat

/-- The command of a level with its flags. -/
def Given.command (given : Given) : Level → Option Command
  | .top => Option.none
  | .init =>
    some (.init {
      about := given.templateFlags
      output := given.values.lookup .output
      ts := given.has .ts
      cjs := given.has .cjs
      force := given.has .force })
  | .check =>
    some (.check {
      about := given.templateFlags
      format := if given.values.lookup .format = some "json" then .json else .text })
  | .version => some .version

/-- The invocation of the options before a command and of a command with the options after it. -/
def invocationOf (before : Given) (level : Level) (after : Given) : Invocation where
  settings := (after.values.lookup .settings).or (before.values.lookup .settings)
  voice := {
    verbosity := if after.verbosity = 0 then before.verbosity else after.verbosity
    quiet := after.has .quiet || before.has .quiet }
  command := after.command level

/-- Read a command line. -/
def Invocation.ofArguments (arguments : List String) : Except Stop Invocation := do
  let top ← readLevel .top .none false arguments
  match top.command with
  | none =>
    let given ← top.given.settle
    return invocationOf given .top .none
  | some (level, rest) =>
    let below ← readLevel level .none false rest
    let after ← below.given.settle
    let before ← top.given.settle
    return invocationOf before level after

end EnvTemplate.CommandLine
