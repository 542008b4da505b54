import Backlog.Program
import Backlog.Proofs.FaultKinds
import Backlog.Proofs.Publishing
import Backlog.Proofs.Utf8

/-!
# Running the program and checking its configuration

What the status, the output and the last event of a run say is what became of its invocation,
however the run is asked for and whatever triggered it. Checking the configuration asks nothing of
anyone. It fails exactly when a run would fail because of the configuration, and then says the same.
-/

namespace Backlog

/-! ### Asking for a run -/

namespace CommandLine

def runArgument : Argument := Utf8.encode "run"

def dryRunArgument : Argument := Utf8.encode "--dry-run"

def eventArgument (text : String) : Argument := Utf8.encode ("--event=" ++ text)

def checkArgument : Argument := Utf8.encode "check-config"

/-- The ways to ask for a run, dry or not, and with or without a trigger. -/
inductive Runs : Bool → Option String → List Argument → Prop where
  | byDefault : Runs false none []
  | wet : Runs false none [runArgument]
  | dry : Runs true none [runArgument, dryRunArgument]
  | wetTriggered (text : String) : Runs false (some text) [runArgument, eventArgument text]
  | dryTriggered (text : String) :
      Runs true (some text) [runArgument, dryRunArgument, eventArgument text]
  | triggeredDry (text : String) :
      Runs true (some text) [runArgument, eventArgument text, dryRunArgument]

lemma eventArgument_eq (text : String) :
    eventArgument text = Utf8.encode "--event=" ++ Utf8.encode text := by
  rw [eventArgument, Utf8.encode, String.toList_append, List.flatMap_append]
  rfl

/-- A trigger is taken as it is, even where it looks like something else. -/
lemma token_eventArgument (text : String) :
    Token.read (Flag.known (some .run)) (eventArgument text) =
      .flag .event (some (Utf8.encode text)) := by
  rw [eventArgument_eq]
  rfl

lemma readRun_eventArgument (o : RunOptions) (text : String) (rest : List Argument)
    (hpending : o.pending = .nothing) (hevent : o.event = none) :
    readRun o (eventArgument text :: rest) =
      readRun { o with event := some text, pending := .nothing } rest := by
  have hsettle : o.settle = .ok o := by
    rw [RunOptions.settle, hpending]
  have htake : o.takeEvent (Utf8.encode text) =
      .ok { o with event := some text, pending := .nothing } := by
    rw [RunOptions.takeEvent, hevent, Utf8.decode?_encode]
    rfl
  rw [readRun, token_eventArgument]
  simp only [hsettle, htake, Bind.bind, Except.bind]

theorem read_of_runs {dryRun : Bool} {trigger : Option String} {arguments : List Argument}
    (h : Runs dryRun trigger arguments) : read arguments = .ok (.run dryRun trigger) := by
  cases h with
  | byDefault => rfl
  | wet => rfl
  | dry => rfl
  | wetTriggered text => exact readRun_eventArgument .initial text [] rfl rfl
  | dryTriggered text => exact readRun_eventArgument ⟨true, none, .nothing⟩ text [] rfl rfl
  | triggeredDry text => exact readRun_eventArgument .initial text [dryRunArgument] rfl rfl

lemma read_checkArgument : read [checkArgument] = .ok .checkConfig := rfl

end CommandLine

/-! ### Requests -/

namespace Journal

@[simp] lemma requests_nil : requests [] = [] := rfl

@[simp] lemma requests_did (a : Action) (j : Journal) : requests (.did a :: j) = requests j := rfl

@[simp] lemma requests_noted (e : Event) (j : Journal) : requests (.noted e :: j) = requests j :=
  rfl

@[simp] lemma requests_append (j j' : Journal) : requests (j ++ j') = requests j ++ requests j' :=
  List.filterMap_append

lemma requests_map_did {α : Type} (action : α → Action) (l : List α) :
    requests (l.map fun a => .did (action a)) = [] := by
  simp [requests]

lemma requests_remarks (remarks : List Remark) : requests (remarks.map Remark.entry) = [] := by
  induction remarks with
  | nil => rfl
  | cons remark rest ih => cases remark <;> exact ih

lemma requests_map_noted {α : Type} (event : α → Event) (l : List α) :
    requests (l.map fun a => .noted (event a)) = [] := by
  simp [requests]

end Journal

lemma Publisher.requests_dryRun (b : Batch) : (Publisher.dryRun b).requests = [] := by
  unfold Publisher.dryRun
  cases b.fault? <;> rfl

namespace Invocation

lemma requests_publish (c : Config) (rs : List Reading) (now : Instant) (publisher : Publisher) :
    (publish c rs now publisher).journal.requests =
      (publisher (.ofReadings c.metricNamespace rs now)).requests := by
  cases h : (publisher (.ofReadings c.metricNamespace rs now)).outcome <;>
    simp [publish, h, Delivery.requests]

/-- Only publishing asks the metrics service for anything. -/
lemma requests_run (c : Config) (store : Store) (clock : Clock) (publisher : Publisher) :
    (run c store clock publisher).journal.requests = [] ∨
      ∃ batch, (run c store clock publisher).journal.requests = (publisher batch).requests := by
  cases h : (store c).connect.outcome with
  | error f =>
    left
    simp [run, h]
  | ok =>
    cases hread : (reading c (store c) clock).result with
    | error f =>
      left
      unfold reading at hread
      simp [run, h, work, hread, Journal.requests_map_did, Journal.requests_remarks, -List.map_take]
    | ok rs =>
      right
      refine ⟨batchOf c (store c) clock rs, ?_⟩
      unfold reading at hread
      simp [run, h, work, hread, reading, batchOf, requests_publish, Journal.requests_map_did,
        Journal.requests_map_noted, Journal.requests_remarks, -List.map_take]

lemma requests_run_dryRun (c : Config) (store : Store) (clock : Clock) :
    (run c store clock .dryRun).journal.requests = [] := by
  obtain h | ⟨batch, h⟩ := requests_run c store clock .dryRun
  · exact h
  · rw [h, Publisher.requests_dryRun]

end Invocation

/-! ### What a report says -/

namespace World

/-- What becomes of the invocation that a run makes. -/
def result (w : World) (dryRun : Bool) : Except Fault Envelope :=
  (Invocation.ofEnvironment w.environment w.store w.clock (w.publisher dryRun)).result

variable {w : World} {dryRun : Bool}

lemma result_of_refused {f : ConfigFault} (h : w.environment.config = .error f) :
    w.result dryRun = .error f.toFault := by
  rw [result, Invocation.ofEnvironment_eq, h]
  rfl

lemma result_of_configured {c : Config} (h : w.environment.config = .ok c) :
    w.result dryRun = (Invocation.run c w.store w.clock (w.publisher dryRun)).result := by
  rw [result, Invocation.ofEnvironment_eq, h]

lemma logFilter_of_unset (h : w.env logVariable = none) : w.logFilter = [] := by
  rw [logFilter, h]
  rfl

lemma publisher_honest (w : World) (dryRun : Bool) : (w.publisher dryRun).Honest := by
  cases dryRun with
  | false => exact Publisher.service_honest w.service
  | true => exact Publisher.dryRun_honest

end World

namespace Report

/-- Without a filter all but the details are shown. -/
lemma log_nil (r : Report) : r.log [] = r.journal.events.filter fun e => !e.isDetail := by
  rw [log]
  congr 1
  funext e
  cases e <;> rfl

/-- No error is a detail. -/
lemma filter_isError_log_nil (r : Report) :
    (r.log []).filter Event.isError = r.journal.events.filter Event.isError := by
  rw [log_nil, List.filter_filter]
  congr 1
  funext e
  cases e <;> rfl

/-- A report that says, with its log shown through a filter, what became of an invocation. -/
structure Conveys (r : Report) (f : LogFilter) (result : Except Fault Envelope) : Prop where
  status : r.status = 0 ↔ ∃ e, result = .ok e
  answered : ∀ e, result = .ok e →
    r.output = e.toJson.text ++ "\n" ∧ (r.log f).filter Event.isError = []
  failed : ∀ fault, result = .error fault → r.status = 1 ∧ r.output = "" ∧
    ∃ event, (r.log f).getLast? = some event ∧
      event.toJson = .object [("level", .string "ERROR"), ("message", .string "Invocation failed"),
        ("kind", .string fault.kind), ("error", .string fault.message)]

lemma aborted_conveys (journal : Journal) (visited : Option Config) (fault : Fault) :
    (aborted journal visited fault).Conveys [] (.error fault) := by
  constructor
  · simp [aborted]
  · intro e he
    cases he
  · intro g hg
    obtain rfl := Except.error.inj hg
    refine ⟨rfl, rfl, .aborted fault, ?_, rfl⟩
    rw [log_nil, aborted, Journal.events_append, List.filter_append]
    exact List.getLast?_concat

lemma ofInvocation_conveys {c : Config} {i : Invocation}
    (h : ∀ e, i.result = .ok e → i.journal.events.filter Event.isError = []) :
    (ofInvocation c i).Conveys [] i.result := by
  unfold ofInvocation
  cases hi : i.result with
  | error fault => exact aborted_conveys _ _ _
  | ok e =>
    constructor
    · simp
    · intro e' he'
      obtain rfl := Except.ok.inj he'
      refine ⟨rfl, ?_⟩
      rw [filter_isError_log_nil]
      exact h e hi
    · intro fault hfault
      cases hfault

end Report

namespace Program

open CommandLine

section Courses

variable {w : World} {dryRun : Bool} {trigger : Option String} {arguments : List Argument}

lemma run_of_refused {f : ConfigFault} (hconfig : w.environment.config = .error f)
    (h : Runs dryRun trigger arguments) : run w arguments = .aborted [] none f.toFault := by
  rw [run, read_of_runs h]
  simp only [perform, hconfig]

lemma run_of_configured {c : Config} (hconfig : w.environment.config = .ok c)
    (h : Runs dryRun trigger arguments) : run w arguments =
      .ofInvocation c (Invocation.run c w.store w.clock (w.publisher dryRun)) := by
  rw [run, read_of_runs h]
  simp only [perform, hconfig]

lemma check_of_refused {f : ConfigFault} (hconfig : w.environment.config = .error f) :
    run w [checkArgument] = .aborted [] none f.toFault := by
  rw [run, read_checkArgument]
  simp only [perform, hconfig]

lemma check_of_configured {c : Config} (hconfig : w.environment.config = .ok c) :
    run w [checkArgument] = .said (c.toJson.indentedText ++ "\n") := by
  rw [run, read_checkArgument]
  simp only [perform, hconfig]

lemma run_conveys (h : Runs dryRun trigger arguments) :
    (run w arguments).Conveys [] (w.result dryRun) := by
  cases hconfig : w.environment.config with
  | error f =>
    rw [run_of_refused hconfig h, World.result_of_refused hconfig]
    exact Report.aborted_conveys _ _ _
  | ok c =>
    rw [run_of_configured hconfig h, World.result_of_configured hconfig]
    exact Report.ofInvocation_conveys (Invocation.run_account c w.store w.clock _).quiet

lemma errors_of_failure {c : Config} {f : Fault} (hconfig : w.environment.config = .ok c)
    (h : Runs dryRun trigger arguments) (hf : w.result dryRun = .error f) : ∃ stage event,
      (run w arguments).journal.events.filter Event.isError = [event, .aborted f] ∧
        event.Blames stage f := by
  rw [World.result_of_configured hconfig] at hf
  obtain ⟨stage, event, herrors, hblames, _⟩ :=
    (Invocation.run_account c w.store w.clock _).failed f hf
  refine ⟨stage, event, ?_, hblames⟩
  rw [run_of_configured hconfig h, Report.ofInvocation]
  simp only [hf, Report.aborted, Journal.events_append, List.filter_append, herrors]
  rfl

lemma requests_of_dry_run (h : Runs true trigger arguments) :
    (run w arguments).journal.requests = [] := by
  cases hconfig : w.environment.config with
  | error f =>
    rw [run_of_refused hconfig h]
    rfl
  | ok c =>
    have hnone := Invocation.requests_run_dryRun c w.store w.clock
    rw [run_of_configured hconfig h, Report.ofInvocation]
    simp only [World.publisher, if_true]
    split <;> simp [Report.aborted, hnone]

end Courses

/-- What is said of a run, and what is left alone. -/
structure Speaks (w : World) : Prop where
  conveys : ∀ {dryRun trigger arguments}, Runs dryRun trigger arguments →
    (run w arguments).Conveys w.logFilter (w.result dryRun)
  /-- Only the program notes that there is no configuration. -/
  refused : ∀ {dryRun trigger arguments}, Runs dryRun trigger arguments →
    ∀ f, w.environment.config = .error f →
      ((run w arguments).log w.logFilter).filter Event.isError = [.aborted f.toFault]
  /-- Any other failure is noted by the invocation, with its phase, and again by the program. -/
  failed : ∀ {dryRun trigger arguments}, Runs dryRun trigger arguments →
    ∀ c f, w.environment.config = .ok c → w.result dryRun = .error f → ∃ stage event,
      ((run w arguments).log w.logFilter).filter Event.isError = [event, .aborted f] ∧
        event.Blames stage f
  /-- The trigger changes nothing, and neither does the way in which a run is asked for. -/
  trigger : ∀ {dryRun trigger arguments trigger' arguments'}, Runs dryRun trigger arguments →
    Runs dryRun trigger' arguments' → run w arguments = run w arguments'
  /-- A dry run asks nothing of the metrics service. -/
  dry : ∀ {trigger arguments}, Runs true trigger arguments →
    (run w arguments).journal.requests = [] ∧
      ∀ service, run { w with service := service } arguments = run w arguments
  /-- A check asks nothing of anyone. -/
  check : (run w [checkArgument]).journal.actions = [] ∧
    (run w [checkArgument]).journal.requests = [] ∧ (run w [checkArgument]).visited = none ∧
    ∀ store service clock, run ⟨w.env, store, service, clock⟩ [checkArgument] =
      run w [checkArgument]

/-- A check fails if and only if a run fails for the configuration, and then they do the same. -/
structure Foretells (w : World) : Prop where
  status : ∀ dryRun, (run w [checkArgument]).status = 0 ↔
    ¬∃ f, w.result dryRun = .error f ∧ f.kind = "config"
  report : (run w [checkArgument]).status ≠ 0 → ∀ {dryRun trigger arguments},
    Runs dryRun trigger arguments → run w [checkArgument] = run w arguments

lemma speaks {w : World} (hlog : w.env World.logVariable = none) : Speaks w where
  conveys h := by
    rw [World.logFilter_of_unset hlog]
    exact run_conveys h
  refused h f hconfig := by
    rw [World.logFilter_of_unset hlog, Report.filter_isError_log_nil, run_of_refused hconfig h]
    rfl
  failed h c f hconfig hf := by
    rw [World.logFilter_of_unset hlog, Report.filter_isError_log_nil]
    exact errors_of_failure hconfig h hf
  trigger h h' := by
    rw [run, read_of_runs h, run, read_of_runs h']
    rfl
  dry h := by
    refine ⟨requests_of_dry_run h, fun service => ?_⟩
    rw [run, read_of_runs h, run, read_of_runs h]
    rfl
  check := by
    cases hconfig : w.environment.config with
    | error f =>
      rw [check_of_refused hconfig]
      exact ⟨rfl, rfl, rfl, fun store service clock => check_of_refused hconfig⟩
    | ok c =>
      rw [check_of_configured hconfig]
      exact ⟨rfl, rfl, rfl, fun store service clock => check_of_configured hconfig⟩

lemma foretells {w : World} (hstore : w.store.Honest) : Foretells w := by
  constructor
  · intro dryRun
    cases hconfig : w.environment.config with
    | error f =>
      rw [check_of_refused hconfig, World.result_of_refused hconfig]
      simp [Report.aborted, ConfigFault.toFault, Fault.kind]
    | ok c =>
      rw [check_of_configured hconfig, World.result_of_configured hconfig]
      refine iff_of_true rfl ?_
      rintro ⟨f, hf, hkind⟩
      exact Invocation.run_kind_ne_config hstore (w.publisher_honest dryRun) hf hkind
  · intro hfails dryRun trigger arguments h
    cases hconfig : w.environment.config with
    | error f => rw [check_of_refused hconfig, run_of_refused hconfig h]
    | ok c =>
      rw [check_of_configured hconfig] at hfails
      exact absurd rfl hfails

/-- Where no log filter is set, runs speak for their invocations and checks foretell them: a check
does so for every store whose faults are about connecting and reading, a Redis server of any
behaviour among them. -/
theorem run_and_check_agree {env : String → Option (List UInt8)}
    (hlog : env World.logVariable = none) (service : PutRequest → PutResponse) (clock : Clock) :
    (∀ store, Speaks ⟨env, store, service, clock⟩) ∧
    (∀ store : Store, store.Honest → Foretells ⟨env, store, service, clock⟩) ∧
    ∀ net, Foretells ⟨env, Redis.store net, service, clock⟩ := by
  have hforetells : ∀ store : Store, store.Honest → Foretells ⟨env, store, service, clock⟩ :=
    fun _ hstore => foretells hstore
  exact ⟨fun _ => speaks hlog, hforetells, fun net => hforetells _ (Redis.store_honest net)⟩

/-- Nothing but the host of a server is set. -/
def hostOnly (name : String) : Option (List UInt8) :=
  if name = Variable.host.name then some (Utf8.encode "localhost") else none

/-- Where nobody listens, a check passes and a run fails to connect. -/
theorem unheard_host_checked :
    let w : World :=
      ⟨hostOnly, Redis.store fun _ _ _ => .error .unreachable, fun _ => .accepted, .ofMilliseconds⟩
    hostOnly World.logVariable = none ∧ w.store.Honest ∧ Speaks w ∧ Foretells w ∧
      (run w [checkArgument]).status = 0 ∧ (run w []).status = 1 ∧
      w.result false =
        .error (.connection "localhost:6379" "Connection refused (os error 111)") := by
  have hlog : hostOnly World.logVariable = none := by decide
  have hhonest := Redis.store_honest fun _ _ _ => .error .unreachable
  obtain ⟨hspeaks, hforetells, _⟩ :=
    run_and_check_agree hlog (fun _ => .accepted) Instant.ofMilliseconds
  refine ⟨hlog, hhonest, hspeaks _, hforetells _ hhonest, ?_⟩
  decide +kernel

end Program

end Backlog
