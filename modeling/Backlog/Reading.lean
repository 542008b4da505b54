import Backlog.Queue
import Backlog.Instant.Rfc3339

/-! The length of a queue, as it was at some moment. -/

namespace Backlog

structure Reading where
  queue : Queue
  length : UInt64
  observed : Instant
deriving DecidableEq

namespace Reading

def toJson (r : Reading) : Json :=
  .object [("key", .string r.queue.key), ("metric_name", .string r.queue.metric),
    ("length", .nat r.length.toNat),
    ("observed_at", .string (String.ofList r.observed.rfc3339))]

end Reading

end Backlog
