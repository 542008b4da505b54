import Backlog.Queue

/-!
What an invocation works with: where the queue store is, which queues to watch and under which
namespace to report them. The password is in no text made here; only whether there is one shows.
-/

namespace Backlog

structure StoreConfig where
  host : String
  port : UInt16
  password : Option String
  database : UInt32
  tls : Bool
deriving DecidableEq, Repr

structure Config where
  store : StoreConfig
  metricNamespace : String
  queues : List Queue
deriving DecidableEq, Repr

namespace StoreConfig

def defaultPort : UInt16 := 6379

def defaultDatabase : UInt32 := 0

/-- The name of the store in events and faults. -/
def endpoint (c : StoreConfig) : String := c.host ++ ":" ++ Numeral.text c.port.toNat

def redacted : String := "***"

def toJson (c : StoreConfig) : Json :=
  .object [("host", .string c.host), ("port", .nat c.port.toNat),
    ("password", .ofOption (fun _ => .string redacted) c.password),
    ("database", .nat c.database.toNat), ("tls", .bool c.tls)]

def inspect (c : StoreConfig) : String :=
  Inspect.record "StoreConfig" [("host", Inspect.text c.host), ("port", Inspect.nat c.port.toNat),
    ("password", Inspect.option (c.password.map fun _ => Inspect.text redacted)),
    ("database", Inspect.nat c.database.toNat), ("tls", Inspect.bool c.tls)]

end StoreConfig

namespace Config

def defaultNamespace : String := "CustomRedisMetrics"

def toJson (c : Config) : Json :=
  .object [("store", c.store.toJson), ("namespace", .string c.metricNamespace),
    ("queues", .array (c.queues.map Queue.toJson))]

def inspect (c : Config) : String :=
  Inspect.record "ProbeConfig" [("store", c.store.inspect),
    ("namespace", Inspect.text c.metricNamespace),
    ("queues", Inspect.list (c.queues.map Queue.inspect))]

end Config

end Backlog
