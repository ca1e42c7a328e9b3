/-
The options of the command line.

An option is named in full behind two dashes or by a letter behind one.  Its value
is the next argument, or stands in the same one: behind an equals sign, or right
behind the letter.  Letters of options without a value may share an argument.  An
argument that begins with a dash is never the value of the option before it, and
behind two dashes alone nothing may follow.  No option may be given twice.

The value of an option that ended its argument is looked at late: when the next
option has been recognised, or at the end.  So an unknown argument is reported
before anything that is wrong with the value in front of it.
-/
import Tripwire.Number.Unsigned
import Tripwire.Text.Escapes

namespace Tripwire.CommandLine

/-- What can be given on the command line. -/
inductive Switch where
  | config
  | name
  | limit
  | cooldown
  | pattern
  | rearm
  | logLevel
  | help
  deriving DecidableEq, Repr

namespace Switch

/-- All of them. -/
def all : List Switch := [config, name, limit, cooldown, pattern, rearm, logLevel, help]

/-- The name in full. -/
def fullName : Switch → String
  | config => "config"
  | name => "name"
  | limit => "limit"
  | cooldown => "cooldown-ms"
  | pattern => "pattern"
  | rearm => "rearm"
  | logLevel => "log-level"
  | help => "help"

/-- The letter, if there is one. -/
def letter? : Switch → Option Char
  | config => some 'c'
  | limit => some 'l'
  | pattern => some 'p'
  | help => some 'h'
  | name | cooldown | rearm | logLevel => none

/-- What stands for the value in messages, if the switch takes one. -/
def placeholder? : Switch → Option String
  | config => some "<CONFIG>"
  | name => some "<NAME>"
  | limit => some "<LIMIT>"
  | cooldown => some "<COOLDOWN_MS>"
  | pattern => some "<PATTERN>"
  | logLevel => some "<LOG_LEVEL>"
  | rearm | help => none

/-- The switch as messages show it. -/
def text (s : Switch) : String :=
  match s.placeholder? with
  | some placeholder => "--" ++ s.fullName ++ " " ++ placeholder
  | none => "--" ++ s.fullName

end Switch

/-- What is wrong with a command line. -/
inductive OptionError where
  /-- There is no such argument. -/
  | unexpected (arg : String)
  /-- A value for a switch that takes none. -/
  | surplus (value : String) (switch : Switch)
  /-- No value for a switch that takes one. -/
  | missing (switch : Switch)
  | repeated (switch : Switch)
  /-- A value that is no number for a switch that takes one. -/
  | invalid (value : String) (switch : Switch) (reason : Number.NumeralError)
  deriving DecidableEq, Repr

/-- The error in words.  What was given is shown without what would steer a terminal. -/
def OptionError.message : OptionError → String
  | unexpected arg => "unexpected argument '" ++ Text.withoutEscapes arg ++ "' found"
  | surplus value switch =>
      "unexpected value '" ++ Text.withoutEscapes value ++ "' for '" ++ switch.text
        ++ "' found; no more were expected"
  | missing switch => "a value is required for '" ++ switch.text ++ "' but none was supplied"
  | repeated switch => "the argument '" ++ switch.text ++ "' cannot be used multiple times"
  | invalid value switch reason =>
      "invalid value '" ++ Text.withoutEscapes value ++ "' for '" ++ switch.text ++ "': "
        ++ reason.message

/-- Why the reading of a command line stops early. -/
inductive Stop where
  /-- Help is asked for. -/
  | help
  | error (e : OptionError)
  deriving DecidableEq, Repr

/-- What is given on a command line. -/
structure Options where
  config : Option String := none
  name : Option String := none
  limit : Option UInt64 := none
  cooldownMs : Option UInt64 := none
  pattern : Option String := none
  rearm : Bool := false
  logLevel : Option String := none
  deriving DecidableEq, Repr

namespace Options

/-- The switch has been given. -/
def has (o : Options) : Switch → Bool
  | .config => o.config.isSome
  | .name => o.name.isSome
  | .limit => o.limit.isSome
  | .cooldown => o.cooldownMs.isSome
  | .pattern => o.pattern.isSome
  | .rearm => o.rearm
  | .logLevel => o.logLevel.isSome
  | .help => false

/-- The number that the value of a switch spells. -/
def number (switch : Switch) (value : String) : Except Stop UInt64 :=
  (Number.readUnsigned value).mapError fun reason => .error (.invalid value switch reason)

/-- The options with one more switch and its value. -/
def set (o : Options) (switch : Switch) (value : String) : Except Stop Options :=
  if o.has switch then .error (.error (.repeated switch))
  else
    match switch with
    | .config =>
        if value = "" then .error (.error (.missing .config))
        else .ok { o with config := some value }
    | .name => .ok { o with name := some value }
    | .limit => (number .limit value).map fun n => { o with limit := some n }
    | .cooldown => (number .cooldown value).map fun n => { o with cooldownMs := some n }
    | .pattern => .ok { o with pattern := some value }
    | .rearm => .ok { o with rearm := true }
    | .logLevel => .ok { o with logLevel := some value }
    | .help => .error .help

end Options

/-- A command line as far as it has been read. -/
structure Progress where
  options : Options := {}
  /-- The last switch, while its value is still to come or has not been looked at. -/
  pending : Option (Switch × Option String) := none

namespace Progress

/-- The options, with the pending one among them. -/
def resolve (p : Progress) : Except Stop Options :=
  match p.pending with
  | none => .ok p.options
  | some (switch, none) => .error (.error (.missing switch))
  | some (switch, some value) => p.options.set switch value

/-- A switch with its value in the same argument, or one without a value. -/
def give (p : Progress) (switch : Switch) (value : String) : Except Stop Progress := do
  let options ← p.resolve
  let options ← options.set switch value
  .ok { options }

/-- A switch whose value is the next argument. -/
def expect (p : Progress) (switch : Switch) : Except Stop Progress := do
  let options ← p.resolve
  .ok { options, pending := some (switch, none) }

/-- An argument with names in full, behind its dashes. -/
def takeName (p : Progress) (s : List Char) : Except Stop Progress :=
  let name := String.ofList (s.takeWhile (· ≠ '='))
  let value : Option String :=
    match s.dropWhile (· ≠ '=') with
    | [] => none
    | _ :: value => some (String.ofList value)
  match Switch.all.find? (·.fullName = name) with
  | none => .error (.error (.unexpected ("--" ++ name)))
  | some switch =>
      match switch.placeholder?, value with
      | some _, none => p.expect switch
      | some _, some value => p.give switch value
      | none, none => p.give switch ""
      | none, some value => .error (.error (.surplus value switch))

/-- An argument with letters, behind its dash. -/
def takeLetters (p : Progress) : List Char → Except Stop Progress
  | [] => .ok p
  | c :: rest =>
      match Switch.all.find? (·.letter? = some c) with
      | none => .error (.error (.unexpected (String.ofList ['-', c])))
      | some switch =>
          match switch.placeholder?, rest with
          | none, rest => do
              let p ← p.give switch ""
              p.takeLetters rest
          | some _, [] => p.expect switch
          | some _, '=' :: value => p.give switch (String.ofList value)
          | some _, value => p.give switch (String.ofList value)

/-- An argument that is no switch. -/
def takeValue (p : Progress) (arg : String) : Except Stop Progress :=
  match p.pending with
  | some (switch, none) => .ok { p with pending := some (switch, some arg) }
  | _ => .error (.error (.unexpected arg))

/-- One more argument. -/
def take (p : Progress) (arg : String) : Except Stop Progress :=
  match arg.toList with
  | '-' :: '-' :: s => p.takeName s
  | '-' :: c :: s => p.takeLetters (c :: s)
  | _ => p.takeValue arg

/-- All the rest of the arguments. -/
def takeAll (p : Progress) : List String → Except Stop Options
  | [] => p.resolve
  | arg :: args =>
      if arg = "--" then
        match args with
        | [] => p.resolve
        | extra :: _ => .error (.error (.unexpected extra))
      else do
        let p ← p.take arg
        p.takeAll args

end Progress

/-- The options that the arguments of a command line spell. -/
def Options.parse (args : List String) : Except Stop Options := Progress.takeAll {} args

end Tripwire.CommandLine
