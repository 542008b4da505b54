import Backlog.Config.Draft
import Backlog.Text.Lowercase
import Backlog.Text.Utf8

/-!
Configurations from an environment. A blank value counts as none. Numbers, switches and the queue
list are read in the order port, database, transport security, queues, and the first that cannot be
read is the fault; what they say is checked when the draft is built.
-/

namespace Backlog

/-- The text of each setting, if it has one. -/
def Environment := Variable → Option String

namespace Environment

/-- Of a process's variables, those whose value is UTF-8. -/
def ofBytes (lookup : String → Option (List UInt8)) : Environment :=
  fun v => (lookup v.name).bind Utf8.decode?

/-- The text of a setting that is not blank. -/
def get? (env : Environment) (v : Variable) : Option String :=
  (env v).filter fun value => !Text.allBlank value

/-- The number in a setting, at most `limit`. -/
def number? (env : Environment) (v : Variable) (limit : Nat) : Except ConfigFault (Option Nat) :=
  match env.get? v with
  | none => .ok none
  | some value =>
    match Numeral.read limit (Text.trim value.toList) with
    | .ok n => .ok (some n)
    | .error cause => .error (.badNumber v value cause)

def switchOfWord? (word : List Char) : Option Bool :=
  let lower := String.ofList (Text.lower word)
  if lower ∈ ["true", "1", "yes", "on"] then some true
  else if lower ∈ ["false", "0", "no", "off"] then some false
  else none

/-- The switch in a setting, in letters of either case. -/
def switch? (env : Environment) (v : Variable) : Except ConfigFault (Option Bool) :=
  match env.get? v with
  | none => .ok none
  | some value =>
    match switchOfWord? (Text.trim value.toList) with
    | some b => .ok (some b)
    | none => .error (.badSwitch v value)

def queues? (env : Environment) : Except ConfigFault (Option (List Queue)) :=
  match env.get? .queues with
  | none => .ok none
  | some value =>
    match Queue.readList value with
    | .ok queues => .ok (some queues)
    | .error entry => .error (.badEntry entry)

def draft (env : Environment) : Except ConfigFault Draft := do
  let port ← env.number? .port 65535
  let database ← env.number? .database 4294967295
  let tls ← env.switch? .tls
  let queues ← env.queues?
  return {
    host := (env.get? .host).map Text.trimmed
    port := (port.map UInt16.ofNat).getD StoreConfig.defaultPort
    password := env.get? .password
    database := (database.map UInt32.ofNat).getD StoreConfig.defaultDatabase
    tls := tls.getD true
    metricNamespace := ((env.get? .metricNamespace).map Text.trimmed).getD Config.defaultNamespace
    queues := queues.getD Queue.defaults }

def config (env : Environment) : Except ConfigFault Config := env.draft >>= Draft.build

end Environment

/-- The environment that gives a configuration again. -/
def Config.toEnvironment (c : Config) : Environment
  | .host => some c.store.host
  | .port => some (Numeral.text c.store.port.toNat)
  | .password => c.store.password
  | .database => some (Numeral.text c.store.database.toNat)
  | .tls => some (Inspect.bool c.store.tls)
  | .metricNamespace => some c.metricNamespace
  | .queues => some (Queue.writeList c.queues)

end Backlog
