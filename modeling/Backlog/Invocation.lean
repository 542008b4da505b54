import Backlog.Config.Environment
import Backlog.Join
import Backlog.Publisher
import Backlog.Summary

/-!
One invocation: connect to the queue store, ask for every length, report them in one batch, and
disconnect whatever came of it. A store and a publisher are what they answer; an invocation is what
it does with that.
-/

namespace Backlog

/-- What a store notes of a connection, and of giving it up after so many milliseconds. -/
inductive Remark where
  | opened (endpoint : String) (database : UInt32) (tls : Bool)
  | closed (endpoint : String) (held : Nat)
deriving DecidableEq

def Remark.entry : Remark → Entry
  | opened endpoint database tls => .noted (.connected endpoint database tls)
  | closed endpoint held => .noted (.disconnected endpoint held)

/-- What a queue store does in one invocation. Reads are answered by place in the list and key. -/
structure Visit where
  connect : Timed (Except Fault Unit)
  read : Nat → String → Timed (Except Fault UInt64)
  disconnect : Option Nat
  opened : List Remark := []
  closed : Nat → List Remark := fun _ => []

abbrev Store := Config → Visit

/-- The time at so many milliseconds after the start. -/
abbrev Clock := Nat → Instant

structure Invocation where
  journal : Journal
  elapsed : Nat
  result : Except Fault Envelope

namespace Invocation

/-- The batches that were handed to the publisher. -/
def batches (i : Invocation) : List Batch := i.journal.actions.filterMap Action.batch?

def answers (queues : List Queue) (visit : Visit) : List (Timed (Except Fault UInt64)) :=
  queues.mapIdx fun i q => visit.read i q.key

/-- The answer about a queue, read off at the moment at which it comes. -/
def measurement (clock : Clock) (q : Queue) (t : Timed (Except Fault UInt64)) :
    Timed (Except Fault Reading) :=
  ⟨t.delay, t.outcome.map fun n => ⟨q, n, clock t.wait⟩⟩

/-- The lengths of the queues, in the order of the list, or the failure that ended the wait. -/
def readAll (queues : List Queue) (answers : List (Timed (Except Fault UInt64))) (clock : Clock) :
    Joined Fault Reading :=
  Join.run (List.zipWith (measurement clock) queues answers)

/-- The part between connecting and disconnecting. -/
structure Work where
  journal : Journal
  elapsed : Nat
  result : Except Fault Summary

def publish (c : Config) (readings : List Reading) (now : Instant) (publisher : Publisher) : Work :=
  let batch := Batch.ofReadings c.metricNamespace readings now
  let delivery := publisher batch
  let before : Journal :=
    .noted (.publishing batch.metricNamespace batch.data.length) :: .did (.publish batch) ::
      delivery.effects.map Effect.entry
  match delivery.outcome with
  | .error fault =>
    ⟨before ++ [.noted (.failed .publishing fault)], delivery.delay.getD 0, .error fault⟩
  | .ok () => ⟨before ++ [.noted .published], delivery.delay.getD 0, .ok (.success readings)⟩

def work (c : Config) (visit : Visit) (clock : Clock) (publisher : Publisher) : Work :=
  let joined := readAll c.queues (answers c.queues visit) clock
  let before : Journal :=
    .noted (.reading c.queues.length) ::
      (c.queues.take joined.started).map fun q => .did (.read q.key)
  match joined.result with
  | .error fault =>
    ⟨before ++ [.noted (.failed .reading fault)], joined.elapsed, .error fault⟩
  | .ok readings =>
    let rest := publish c readings (clock joined.elapsed) publisher
    ⟨before ++ readings.map (fun r => .noted (.measured r.queue.key r.length)) ++ rest.journal,
      joined.elapsed + rest.elapsed, rest.result⟩

def run (c : Config) (store : Store) (clock : Clock) (publisher : Publisher) : Invocation :=
  let visit := store c
  let endpoint := c.store.endpoint
  let before : Journal :=
    [.noted (.connecting endpoint c.store.database c.store.tls c.store.password.isSome),
      .did (.connect endpoint)]
  match visit.connect.outcome with
  | .error fault =>
    ⟨before ++ [.noted (.failed .connecting fault)], visit.connect.wait, .error fault⟩
  | .ok () =>
    let work := work c visit (fun ms => clock (visit.connect.wait + ms)) publisher
    let after : Journal :=
      .noted .disconnecting :: .did .disconnect :: (visit.closed work.elapsed).map Remark.entry
    ⟨before ++ visit.opened.map Remark.entry ++ work.journal ++ after,
      visit.connect.wait + work.elapsed + visit.disconnect.getD 0,
      work.result.map .ofSummary⟩

/-- An invocation that ends before it begins. -/
def refused (fault : Fault) : Invocation :=
  ⟨[.noted (.failed .validating fault)], 0, .error fault⟩

def ofDraft (d : Draft) (store : Store) (clock : Clock) (publisher : Publisher) : Invocation :=
  match d.build with
  | .error fault => refused fault.toFault
  | .ok c => run c store clock publisher

def ofEnvironment (env : Environment) (store : Store) (clock : Clock) (publisher : Publisher) :
    Invocation :=
  match env.draft with
  | .error fault => refused fault.toFault
  | .ok d => ofDraft d store clock publisher

end Invocation

end Backlog
