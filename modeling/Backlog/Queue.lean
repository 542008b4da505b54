import Backlog.Json.Writer
import Backlog.Text.Blank
import Backlog.Text.Inspect

/-!
The queues to watch, and lists of them in one line of text: entries `key=metric` between commas,
with white space around any part and blank entries skipped.
-/

namespace Backlog

/-- A list in the queue store and the name of the metric that reports its length. -/
structure Queue where
  key : String
  metric : String
deriving DecidableEq, Repr

namespace Queue

def urls : Queue := ⟨"urls", "ScraperQueueLength"⟩

def rag : Queue := ⟨"rag", "RAGQueueLength"⟩

/-- The queues watched when none are named. -/
def defaults : List Queue := [urls, rag]

/-- An entry, trimmed: the key before the first equals sign and the metric after it. -/
def ofEntry? (entry : List Char) : Option Queue :=
  match entry.dropWhile (· != '=') with
  | [] => none
  | _ :: metric =>
    some ⟨String.ofList (Text.trim (entry.takeWhile (· != '='))), String.ofList (Text.trim metric)⟩

/-- The entries of a list, trimmed, without the blank ones. -/
def entries (cs : List Char) : List (List Char) :=
  ((cs.splitOn ',').map Text.trim).filter fun entry => !entry.isEmpty

/-- Refuses the first entry that has no equals sign, and gives it back. -/
def ofEntries : List (List Char) → Except String (List Queue)
  | [] => .ok []
  | entry :: rest =>
    match ofEntry? entry with
    | none => .error (String.ofList entry)
    | some q => (ofEntries rest).map (q :: ·)

def readList (s : String) : Except String (List Queue) := ofEntries (entries s.toList)

def entryText (q : Queue) : String := q.key ++ "=" ++ q.metric

def writeList (queues : List Queue) : String := ",".intercalate (queues.map entryText)

def toJson (q : Queue) : Json :=
  .object [("key", .string q.key), ("metric_name", .string q.metric)]

def inspect (q : Queue) : String :=
  Inspect.record "QueueSpec" [("key", Inspect.text q.key), ("metric_name", Inspect.text q.metric)]

end Queue

end Backlog
