import Backlog.Text.Inspect

/-! The ways an invocation can fail, as they are reported. -/

namespace Backlog

inductive Fault where
  | config (message : String)
  | connection (endpoint reason : String)
  | read (queue reason : String)
  | publish (message : String)
  | serialization (message : String)
deriving DecidableEq, Repr

namespace Fault

/-- The stable word for the kind of fault. -/
def kind : Fault → String
  | .config _ => "config"
  | .connection _ _ => "connection"
  | .read _ _ => "read"
  | .publish _ => "publish"
  | .serialization _ => "serialization"

def message : Fault → String
  | .config message => "Configuration error: " ++ message
  | .connection endpoint reason => "Connection to " ++ endpoint ++ " failed: " ++ reason
  | .read queue reason => "Failed to read length of queue '" ++ queue ++ "': " ++ reason
  | .publish message => "Publish failed: " ++ message
  | .serialization message => "Serialization failed: " ++ message

def inspect : Fault → String
  | .config message => Inspect.call "Config" [Inspect.text message]
  | .connection endpoint reason =>
    Inspect.record "Connection"
      [("endpoint", Inspect.text endpoint), ("reason", Inspect.text reason)]
  | .read queue reason =>
    Inspect.record "Read" [("queue", Inspect.text queue), ("reason", Inspect.text reason)]
  | .publish message => Inspect.call "Publish" [Inspect.text message]
  | .serialization message => Inspect.call "Serialization" [Inspect.text message]

end Fault

end Backlog
