import Backlog.Text.Utf8

/-!
The command line. Arguments are bytes. An option that takes a value from the argument after it takes
it for good only when the next option or the end is reached, so of two faults the one that needs no
look at a value comes first.
-/

namespace Backlog

inductive Subcommand where
  | run
  | checkConfig
  | help
deriving DecidableEq, Repr

/-- What is asked of the program. Help without a subcommand is about the program as a whole. -/
inductive CommandLine where
  | run (dryRun : Bool) (event : Option String)
  | checkConfig
  | help (topic : Option Subcommand)
  | version
deriving DecidableEq, Repr

inductive Flag where
  | dryRun
  | event
  | help
  | version
deriving DecidableEq, Repr

inductive UsageFault where
  | unknownSubcommand (name : String)
  | unexpected (argument : String)
  | valueMissing
  | valueUnwanted (flag : Flag) (value : String)
  | repeated (flag : Flag)
  | notUtf8
deriving DecidableEq, Repr

namespace Subcommand

def all : List Subcommand := [run, checkConfig, help]

def name : Subcommand → String
  | run => "run"
  | checkConfig => "check-config"
  | help => "help"

def ofName? (name : String) : Option Subcommand := all.find? fun s => s.name = name

def summary : Subcommand → String
  | run => "Run one probe-and-report cycle (default)"
  | checkConfig => "Validate configuration and print it with secrets redacted"
  | help => "Print this message or the help of the given subcommand(s)"

end Subcommand

namespace Flag

def long : Flag → String
  | dryRun => "dry-run"
  | event => "event"
  | help => "help"
  | version => "version"

def short? : Flag → Option Char
  | dryRun => none
  | event => none
  | help => some 'h'
  | version => some 'V'

/-- A flag with the value it takes. -/
def usage : Flag → String
  | event => "--event <EVENT>"
  | f => "--" ++ f.long

/-- The flags of the program itself, or of one of its subcommands. -/
def known : Option Subcommand → List Flag
  | none => [help, version]
  | some .run => [dryRun, event, help]
  | some .checkConfig => [help]
  | some .help => []

end Flag

namespace UsageFault

def message : UsageFault → String
  | unknownSubcommand name => "error: unrecognized subcommand '" ++ name ++ "'"
  | unexpected argument => "error: unexpected argument '" ++ argument ++ "' found"
  | valueMissing =>
    "error: a value is required for '" ++ Flag.event.usage ++ "' but none was supplied"
  | valueUnwanted flag value =>
    "error: unexpected value '" ++ value ++ "' for '" ++ flag.usage ++
      "' found; no more were expected"
  | repeated flag => "error: the argument '" ++ flag.usage ++ "' cannot be used multiple times"
  | notUtf8 => "error: invalid UTF-8 was detected in one or more arguments"

end UsageFault

namespace CommandLine

abbrev Argument := List UInt8

/-- What an argument looks like to whoever knows some flags. -/
inductive Token where
  | separator
  | flag (flag : Flag) (value : Option Argument)
  | unknownFlag (shown : String)
  | plain (argument : Argument)
deriving DecidableEq, Repr

namespace Token

def dash : UInt8 := 45

def equals : UInt8 := 61

/-- The value behind the first equality sign. -/
def attached? : Argument → Option Argument
  | [] => none
  | b :: bs => if b = equals then some bs else attached? bs

def ofLong (known : List Flag) (text : Argument) : Token :=
  let name := Utf8.decodeLenient (text.takeWhile fun b => b != equals)
  match known.find? fun f => f.long = name with
  | some f => .flag f (attached? text)
  | none => .unknownFlag ("--" ++ name)

/-- The first letter decides: no flag with a letter lets another follow it. -/
def ofShort (known : List Flag) (text : Argument) : Token :=
  match Utf8.parts text with
  | some c :: _ =>
    match known.find? fun f => f.short? = some c with
    | some f => .flag f none
    | none => .unknownFlag (String.ofList ['-', c])
  | _ => .unknownFlag ("-" ++ Utf8.decodeLenient text)

/-- One dash alone is an argument like any other. -/
def read (known : List Flag) : Argument → Token
  | a :: b :: bs =>
    if a = dash then
      if b = dash then if bs.isEmpty then .separator else ofLong known bs
      else ofShort known (b :: bs)
    else .plain (a :: b :: bs)
  | bs => .plain bs

end Token

/-- A value that has been asked for, or has come but is not yet taken. -/
inductive Pending where
  | nothing
  | value
  | found (value : Argument)
deriving DecidableEq, Repr

/-- The options of a run as far as they have been read. -/
structure RunOptions where
  dryRun : Bool
  event : Option String
  pending : Pending
deriving DecidableEq, Repr

namespace RunOptions

def initial : RunOptions := ⟨false, none, .nothing⟩

def takeEvent (o : RunOptions) (value : Argument) : Except UsageFault RunOptions :=
  if o.event.isSome then .error (.repeated .event)
  else
    match Utf8.decode? value with
    | none => .error .notUtf8
    | some text => .ok { o with event := some text, pending := .nothing }

def settle (o : RunOptions) : Except UsageFault RunOptions :=
  match o.pending with
  | .nothing => .ok o
  | .value => .error .valueMissing
  | .found value => o.takeEvent value

def takeDryRun (o : RunOptions) : Except UsageFault RunOptions :=
  if o.dryRun then .error (.repeated .dryRun) else .ok { o with dryRun := true }

def finish (o : RunOptions) : Except UsageFault CommandLine :=
  o.settle.map fun o => .run o.dryRun o.event

end RunOptions

/-- After the separator there are no options, and what is left has no place. -/
def nothingMore (line : Except UsageFault CommandLine) :
    List Argument → Except UsageFault CommandLine
  | [] => line
  | argument :: _ => .error (.unexpected (Utf8.decodeLenient argument))

def readRun (o : RunOptions) : List Argument → Except UsageFault CommandLine
  | [] => o.finish
  | argument :: rest =>
    match Token.read (Flag.known (some .run)) argument with
    | .separator => nothingMore o.finish rest
    | .unknownFlag shown => .error (.unexpected shown)
    | .plain argument =>
      if o.pending = .value then readRun { o with pending := .found argument } rest
      else .error (.unexpected (Utf8.decodeLenient argument))
    | .flag .event none => do
      let o ← o.settle
      readRun { o with pending := .value } rest
    | .flag .event (some value) => do
      let o ← o.settle
      let o ← o.takeEvent value
      readRun o rest
    | .flag flag (some value) => .error (.valueUnwanted flag (Utf8.decodeLenient value))
    | .flag .dryRun none => do
      let o ← o.settle
      let o ← o.takeDryRun
      readRun o rest
    | .flag .help none => o.settle.map fun _ => .help (some .run)
    | .flag .version none => o.settle.map fun _ => .version

def readCheckConfig : List Argument → Except UsageFault CommandLine
  | [] => .ok .checkConfig
  | argument :: rest =>
    match Token.read (Flag.known (some .checkConfig)) argument with
    | .separator => nothingMore (.ok .checkConfig) rest
    | .unknownFlag shown => .error (.unexpected shown)
    | .plain argument => .error (.unexpected (Utf8.decodeLenient argument))
    | .flag flag (some value) => .error (.valueUnwanted flag (Utf8.decodeLenient value))
    | .flag _ none => .ok (.help (some .checkConfig))

/-- Topics are taken literally. No subcommand has subcommands of its own. -/
def readHelp : List Argument → Except UsageFault CommandLine
  | [] => .ok (.help none)
  | argument :: rest =>
    let name := Utf8.decodeLenient argument
    match Subcommand.ofName? name, rest with
    | none, _ => .error (.unknownSubcommand name)
    | some topic, [] => .ok (.help (some topic))
    | some _, next :: _ => .error (.unknownSubcommand (Utf8.decodeLenient next))

/-- Without a subcommand the program runs. -/
def byDefault : CommandLine := .run false none

/-- After the separator a subcommand is no longer one. -/
def readSeparated : List Argument → Except UsageFault CommandLine
  | [] => .ok byDefault
  | argument :: _ =>
    let name := Utf8.decodeLenient argument
    match Subcommand.ofName? name with
    | some _ => .error (.unexpected name)
    | none => .error (.unknownSubcommand name)

def read : List Argument → Except UsageFault CommandLine
  | [] => .ok byDefault
  | argument :: rest =>
    match Token.read (Flag.known none) argument with
    | .separator => readSeparated rest
    | .unknownFlag shown => .error (.unexpected shown)
    | .flag flag (some value) => .error (.valueUnwanted flag (Utf8.decodeLenient value))
    | .flag .version none => .ok .version
    | .flag _ none => .ok (.help none)
    | .plain argument =>
      let name := Utf8.decodeLenient argument
      match Subcommand.ofName? name with
      | none => .error (.unknownSubcommand name)
      | some .run => readRun .initial rest
      | some .checkConfig => readCheckConfig rest
      | some .help => readHelp rest

end CommandLine

end Backlog
