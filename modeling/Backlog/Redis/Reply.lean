import Backlog.Number.Layout
import Backlog.Text.Inspect
import Backlog.Text.Utf8

/-! The values that a Redis server answers with, and their diagnostic texts. -/

namespace Backlog.Redis

/-- A refusal by the server: a code, and after a space what it has to say. -/
structure ServerError where
  code : String
  detail : Option String
deriving DecidableEq, Repr

inductive Reply where
  | nil
  | int (value : Int64)
  | bulk (bytes : List UInt8)
  | array (items : List Reply)
  | simple (text : String)
  | okay
  | map (entries : List (Reply × Reply))
  | set (items : List Reply)
  | double (value : Double)
  | boolean (value : Bool)
  | verbatim (format text : String)
  | bigNumber (value : Int)
  | error (cause : ServerError)

namespace ServerError

/-- The code ends at the first space. -/
def ofLine (line : List Char) : ServerError where
  code := String.ofList (line.takeWhile (· != ' '))
  detail := match line.dropWhile (· != ' ') with
    | [] => none
    | _ :: rest => some (String.ofList rest)

/-- The kinds of refusal that have a name of their own. -/
def kind? (code : String) : Option String :=
  [("ERR", "ResponseError"), ("EXECABORT", "ExecAbortError"), ("LOADING", "BusyLoadingError"),
    ("NOSCRIPT", "NoScriptError"), ("MOVED", "Moved"), ("ASK", "Ask"), ("TRYAGAIN", "TryAgain"),
    ("CLUSTERDOWN", "ClusterDown"), ("CROSSSLOT", "CrossSlot"), ("MASTERDOWN", "MasterDown"),
    ("READONLY", "ReadOnly"), ("NOTBUSY", "NotBusy"), ("NOSUB", "NoSub")].lookup code

/-- A description and a kind, with the detail if there is one. -/
def described (description kind : String) : Option String → String
  | none => description ++ "- " ++ kind
  | some detail => description ++ " - " ++ kind ++ ": " ++ detail

def message (e : ServerError) : String :=
  match kind? e.code with
  | some kind => described "An error was signalled by the server" kind e.detail
  | none => e.code ++ ": " ++ e.detail.getD "Unknown extension error encountered"

end ServerError

namespace Reply

def inspectInt (n : Int) : String :=
  (if n < 0 then "-" else "") ++ Inspect.nat n.natAbs

def inspectFormat (format : String) : String :=
  if format = "txt" then "Text"
  else if format = "mkd" then "Markdown"
  else Inspect.call "Unknown" [Inspect.text format]

mutual

def inspect : Reply → String
  | .nil => "nil"
  | .int n => "int(" ++ inspectInt n.toInt ++ ")"
  | .bulk bytes =>
    match Utf8.decode? bytes with
    | some s => "bulk-string('" ++ Inspect.text s ++ "')"
    | none => "binary-data(" ++ Inspect.list (bytes.map fun b => Inspect.nat b.toNat) ++ ")"
  | .array items => "array(" ++ Inspect.list (inspectAll items) ++ ")"
  | .simple s => "simple-string(" ++ Inspect.text s ++ ")"
  | .okay => "ok"
  | .map entries => "map(" ++ Inspect.list (inspectEntries entries) ++ ")"
  | .set items => "set(" ++ Inspect.list (inspectAll items) ++ ")"
  | .double d => "double(" ++ d.inspect ++ ")"
  | .boolean b => "boolean(" ++ Inspect.bool b ++ ")"
  | .verbatim format s =>
    "verbatim-string(" ++ inspectFormat format ++ "," ++ Inspect.text s ++ ")"
  | .bigNumber n => "big-number(" ++ inspectInt n ++ ")"
  | .error e => "error(" ++ Inspect.text e.message ++ ")"

def inspectAll : List Reply → List String
  | [] => []
  | r :: rs => inspect r :: inspectAll rs

def inspectEntries : List (Reply × Reply) → List String
  | [] => []
  | (k, v) :: rest => ("(" ++ inspect k ++ ", " ++ inspect v ++ ")") :: inspectEntries rest

end

mutual

/-- The first error in a reply or anywhere inside it. -/
def error? : Reply → Option ServerError
  | .error e => some e
  | .array items => errorAmong? items
  | .set items => errorAmong? items
  | .map entries => errorInEntries? entries
  | _ => none

def errorAmong? : List Reply → Option ServerError
  | [] => none
  | r :: rs => (error? r).or (errorAmong? rs)

def errorInEntries? : List (Reply × Reply) → Option ServerError
  | [] => none
  | (k, v) :: rest => ((error? k).or (error? v)).or (errorInEntries? rest)

end

end Reply

end Backlog.Redis
