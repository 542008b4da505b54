import Backlog.CommandLine.Help
import Backlog.Invocation
import Backlog.LogFilter

/-!
The program: what a command line makes it do, say and return. Whatever can go wrong before an
invocation begins is found before the store or the metrics service is asked for anything.
-/

namespace Backlog

/-- What a program runs in. -/
structure World where
  env : String → Option (List UInt8)
  store : Store
  service : PutRequest → PutResponse
  clock : Clock

/-- What comes of running the program. The journal holds every event, shown or not; only a store
that has been visited has a configuration. -/
structure Report where
  status : Nat
  output : String
  complaint : Option UsageFault
  journal : Journal
  visited : Option Config

namespace World

def environment (w : World) : Environment := .ofBytes w.env

/-- The variable that holds the log filter. -/
def logVariable : String := "RUST_LOG"

/-- Text that is not UTF-8 filters nothing. -/
def logFilter (w : World) : LogFilter :=
  .read (((w.env logVariable).bind Utf8.decode?).getD "")

def publisher (w : World) (dryRun : Bool) : Publisher :=
  if dryRun then .dryRun else .service w.service

end World

namespace Report

def said (text : String) : Report := ⟨0, text, none, [], none⟩

def misused (fault : UsageFault) : Report := ⟨2, "", some fault, [], none⟩

def aborted (journal : Journal) (visited : Option Config) (fault : Fault) : Report :=
  ⟨1, "", none, journal ++ [.noted (.aborted fault)], visited⟩

def ofInvocation (c : Config) (i : Invocation) : Report :=
  match i.result with
  | .error fault => aborted i.journal (some c) fault
  | .ok envelope => ⟨0, envelope.toJson.text ++ "\n", none, i.journal, some c⟩

def log (r : Report) (f : LogFilter) : List Event := r.journal.events.filter f.shows

end Report

namespace Program

/-- The trigger is not looked at. -/
def perform (w : World) : CommandLine → Report
  | .help topic => .said (Help.text topic)
  | .version => .said Help.version
  | .checkConfig =>
    match w.environment.config with
    | .error fault => .aborted [] none fault.toFault
    | .ok c => .said (c.toJson.indentedText ++ "\n")
  | .run dryRun _ =>
    match w.environment.config with
    | .error fault => .aborted [] none fault.toFault
    | .ok c => .ofInvocation c (Invocation.run c w.store w.clock (w.publisher dryRun))

def run (w : World) (arguments : List CommandLine.Argument) : Report :=
  match CommandLine.read arguments with
  | .error fault => .misused fault
  | .ok line => perform w line

end Program

end Backlog
