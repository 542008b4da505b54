import Backlog.Program
import Backlog.Redis.Session

/-!
The executable. It brings no transport: no server listens in its world, and the metrics service is
out of reach.
-/

namespace Backlog.Executable

/-- The variables that the program looks at, as the process has them. -/
def processEnv : IO (String → Option (List UInt8)) := do
  let names := World.logVariable :: Variable.all.map Variable.name
  let values ← names.mapM fun name => do
    return (name, (← IO.getEnv name).map Utf8.encode)
  return fun name => values.lookup name |>.join

def world : IO World := do
  return {
    env := ← processEnv
    store := Redis.store fun _ _ _ => .error .unreachable
    service := fun _ => .unreachable "no transport"
    clock := Instant.ofMilliseconds }

end Backlog.Executable

open Backlog in
def main (arguments : List String) : IO UInt32 := do
  let world ← Executable.world
  let report := Program.run world (arguments.map Utf8.encode)
  for event in report.log world.logFilter do
    IO.eprintln event.toJson.text
  if let some fault := report.complaint then IO.eprintln fault.message
  IO.print report.output
  return report.status.toUInt32
