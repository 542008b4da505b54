import Backlog.Journal

/-!
Which events are shown. A filter is a list of directives `target=level` separated by commas; of the
directives whose target begins an event's own, the longest decides, and of equal ones the last.
-/

namespace Backlog

/-- How much is shown, from nothing to all. -/
inductive Verbosity where
  | off
  | error
  | warn
  | info
  | debug
  | trace
deriving DecidableEq, Repr

namespace Verbosity

def all : List Verbosity := [off, error, warn, info, debug, trace]

def rank : Verbosity → Nat
  | off => 0
  | error => 1
  | warn => 2
  | info => 3
  | debug => 4
  | trace => 5

def name : Verbosity → String
  | off => "off"
  | error => "error"
  | warn => "warn"
  | info => "info"
  | debug => "debug"
  | trace => "trace"

/-- A level by its rank, or by its name in letters of either case. -/
def read? (text : List Char) : Option Verbosity :=
  match Numeral.read 5 text with
  | .ok n => all.find? fun v => v.rank = n
  | .error _ => all.find? fun v => v.name = String.ofList (text.map Char.toLower)

end Verbosity

namespace Event

/-- The part of the program that an event comes from. -/
def target : Event → String
  | connected .. => "queue_probe::store::redis"
  | disconnected .. => "queue_probe::store::redis"
  | notSent .. => "queue_probe::publish::log"
  | accepted .. => "queue_probe::publish::cloudwatch"
  | aborted _ => "queue_probe"
  | _ => "queue_probe::probe"

/-- How much has to be shown for an event to be among it. -/
def verbosity (e : Event) : Verbosity :=
  if e.isError then .error else if e.isDetail then .debug else .info

end Event

structure Directive where
  target : List Char
  level : Verbosity
deriving DecidableEq, Repr

namespace Directive

/-- What holds where no target is named. -/
def base : Directive := ⟨[], .info⟩

def covers (d : Directive) (target : List Char) : Bool := d.target.isPrefixOf target

/-- The level behind the equality sign; none at all means everything. -/
def level? : List Char → Option Verbosity
  | [] => some .trace
  | _ :: [] => some .trace
  | _ :: text => Verbosity.read? text

/-- What cannot be read, and a level without target, directs nothing. Blanks belong to the text. -/
def read? (entry : List Char) : Option Directive :=
  let target := entry.takeWhile fun c => c != '='
  if target.isEmpty then none
  else if (Verbosity.read? entry).isSome then none
  else (level? (entry.dropWhile fun c => c != '=')).map fun level => ⟨target, level⟩

end Directive

abbrev LogFilter := List Directive

namespace LogFilter

def read (text : String) : LogFilter :=
  (text.toList.splitOn ',').filterMap Directive.read?

/-- Of two directives the one with the longer target, the second if they are equally long. -/
def longer (a b : Directive) : Directive :=
  if a.target.length ≤ b.target.length then b else a

def level (f : LogFilter) (target : String) : Verbosity :=
  ((f.filter fun d => d.covers target.toList).foldl longer .base).level

def shows (f : LogFilter) (e : Event) : Bool := decide (e.verbosity.rank ≤ (f.level e.target).rank)

end LogFilter

end Backlog
