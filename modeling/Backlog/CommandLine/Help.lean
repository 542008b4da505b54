import Backlog.CommandLine

/-! What the program says about itself. -/

namespace Backlog

namespace Flag

def letterAndName (f : Flag) : String :=
  match f.short? with
  | some c => String.ofList ['-', c, ',', ' '] ++ f.usage
  | none => "    " ++ f.usage

def summary : Flag → String
  | dryRun => "Log the metric batch instead of sending it"
  | event => "Trigger payload, passed through verbatim and otherwise ignored"
  | help => "Print help"
  | version => "Print version"

end Flag

namespace Help

def programName : String := "queue-probe"

def programVersion : String := "0.1.0"

def programSummary : String := "Publish Redis work-queue lengths as CloudWatch metrics"

def widest (rows : List (String × String)) : Nat :=
  rows.foldl (fun width row => if width < row.1.length then row.1.length else width) 0

def row (width : Nat) (left right : String) : String :=
  "  " ++ left ++ String.ofList (List.replicate (width - left.length + 2) ' ') ++ right ++ "\n"

/-- A heading over two columns, the second of which begins two places behind the widest entry of
the first. -/
def table (heading : String) (rows : List (String × String)) : String :=
  "\n" ++ heading ++ ":\n" ++ String.join (rows.map fun r => row (widest rows) r.1 r.2)

def opening (summary rest : String) : String :=
  summary ++ "\n\nUsage: " ++ programName ++ " " ++ rest ++ "\n"

def options (topic : Option Subcommand) : String :=
  table "Options" ((Flag.known topic).map fun f => (f.letterAndName, f.summary))

def text : Option Subcommand → String
  | none =>
    opening programSummary "[COMMAND]" ++
      table "Commands" (Subcommand.all.map fun s => (s.name, s.summary)) ++ options none
  | some .run => opening Subcommand.run.summary "run [OPTIONS]" ++ options (some .run)
  | some .checkConfig =>
    opening Subcommand.checkConfig.summary "check-config" ++ options (some .checkConfig)
  | some .help =>
    opening Subcommand.help.summary "help [COMMAND]..." ++
      table "Arguments" [("[COMMAND]...", "Print help for the subcommand(s)")]

def version : String := programName ++ " " ++ programVersion ++ "\n"

end Help

end Backlog
