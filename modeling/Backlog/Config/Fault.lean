import Backlog.Fault
import Backlog.Number.Numeral

/-! Why a configuration is refused. -/

namespace Backlog

/-- The settings that an environment can hold. -/
inductive Variable where
  | host
  | port
  | password
  | database
  | tls
  | metricNamespace
  | queues
deriving DecidableEq, Repr

namespace Variable

def all : List Variable := [host, port, password, database, tls, metricNamespace, queues]

def name : Variable → String
  | host => "REDIS_HOST"
  | port => "REDIS_PORT"
  | password => "REDIS_PASSWORD"
  | database => "REDIS_DB"
  | tls => "REDIS_TLS"
  | metricNamespace => "QUEUE_METRICS_NAMESPACE"
  | queues => "QUEUE_METRICS_QUEUES"

end Variable

def Numeral.Fault.message : Numeral.Fault → String
  | .notDigit => "invalid digit found in string"
  | .tooLarge => "number too large to fit in target type"

inductive ConfigFault where
  | badNumber (setting : Variable) (value : String) (cause : Numeral.Fault)
  | badSwitch (setting : Variable) (value : String)
  | badEntry (entry : String)
  | noHost
  | noNamespace
  | noQueues
  | emptyPart
  | repeatedKey (key : String)
  | repeatedMetric (metric : String)
deriving DecidableEq, Repr

namespace ConfigFault

def message : ConfigFault → String
  | badNumber setting value cause =>
    "invalid value '" ++ value ++ "' for " ++ setting.name ++ ": " ++ cause.message
  | badSwitch setting value =>
    "invalid boolean value '" ++ value ++ "' for " ++ setting.name ++
      ", expected true/false/1/0/yes/no/on/off"
  | badEntry entry => "invalid queue entry '" ++ entry ++ "', expected key=MetricName"
  | noHost => Variable.host.name ++ " not defined"
  | noNamespace => "metrics namespace cannot be empty"
  | noQueues => "at least one queue must be monitored"
  | emptyPart => "queue key and metric name cannot be empty"
  | repeatedKey key => "queue '" ++ key ++ "' is listed more than once"
  | repeatedMetric metric => "metric name '" ++ metric ++ "' is used by more than one queue"

def toFault (f : ConfigFault) : Fault := .config f.message

end ConfigFault

end Backlog
