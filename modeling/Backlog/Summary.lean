import Backlog.Reading

/-!
What an invocation answers: a message and the length of every queue in one JSON object, which goes
as text into the body of an envelope.
-/

namespace Backlog

structure Summary where
  message : String
  readings : List Reading
deriving DecidableEq

namespace Summary

def successMessage : String := "Metrics updated"

def success (readings : List Reading) : Summary := ⟨successMessage, readings⟩

/-- The length of the first reading of a key. -/
def lengthOf? (s : Summary) (key : String) : Option UInt64 :=
  (s.readings.find? fun r => r.queue.key = key).map Reading.length

def memberName (key : String) : String := key ++ "QueueLength"

def toJson (s : Summary) : Json :=
  .object (("message", .string s.message) ::
    s.readings.map fun r => (memberName r.queue.key, .nat r.length.toNat))

end Summary

/-- The answer to whoever started the invocation. -/
structure Envelope where
  status : Nat
  body : String
  summary : Summary
deriving DecidableEq

namespace Envelope

def ofSummary (s : Summary) : Envelope := ⟨200, s.toJson.text, s⟩

def toJson (e : Envelope) : Json :=
  .object [("statusCode", .nat e.status), ("body", .string e.body)]

end Envelope

end Backlog
