import Backlog.Invocation

/-!
Stand-ins for a queue store and a publisher that answer at once with what they were told to, and
count what they were asked. Invocations can be rehearsed against them any number of times.
-/

namespace Backlog.Rehearsal

/-- What a stand-in store is told to do. -/
inductive Instruction where
  | length (key : String) (value : UInt64)
  | readError (key reason : String)
  | refuse (reason : String)
deriving DecidableEq, Repr

structure StandinStore where
  replies : List (String × Except String UInt64)
  refusal : Option String

namespace StandinStore

def empty : StandinStore := ⟨[], none⟩

/-- The last instruction for a key counts, and so does the last refusal; nothing takes it back. -/
def instruct (s : StandinStore) : Instruction → StandinStore
  | .length key value => { s with replies := (key, .ok value) :: s.replies }
  | .readError key reason => { s with replies := (key, .error reason) :: s.replies }
  | .refuse reason => { s with refusal := some reason }

def ofInstructions (is : List Instruction) : StandinStore := is.foldl instruct empty

/-- A key without instruction has an empty queue. -/
def reply (s : StandinStore) (key : String) : Except Fault UInt64 :=
  match s.replies.lookup key with
  | none => .ok 0
  | some (.ok n) => .ok n
  | some (.error reason) => .error (.read key reason)

def store (s : StandinStore) : Store := fun c =>
  { connect := ⟨none, match s.refusal with
      | none => .ok ()
      | some reason => .error (.connection c.store.endpoint reason)⟩
    read := fun _ key => ⟨none, s.reply key⟩
    disconnect := none }

end StandinStore

inductive StandinPublisher where
  | accepting
  | failing (reason : String)
deriving DecidableEq, Repr

namespace StandinPublisher

def publisher (p : StandinPublisher) : Publisher := fun _ =>
  match p with
  | accepting => ⟨[], none, .ok ()⟩
  | failing reason => Publisher.refuse (.publish reason)

/-- The batches that are kept, of those handed over. -/
def accepted (p : StandinPublisher) (batches : List Batch) : List Batch :=
  match p with
  | accepting => batches
  | failing _ => []

end StandinPublisher

structure StoreTally where
  connects : Nat
  reads : Nat
  disconnects : Nat
deriving DecidableEq, Repr

structure PublisherTally where
  attempts : Nat
  accepted : List Batch
deriving DecidableEq

namespace StoreTally

def zero : StoreTally := ⟨0, 0, 0⟩

def count (t : StoreTally) : Action → StoreTally
  | .connect _ => { t with connects := t.connects + 1 }
  | .read _ => { t with reads := t.reads + 1 }
  | .disconnect => { t with disconnects := t.disconnects + 1 }
  | .publish _ => t

def add (t : StoreTally) (i : Invocation) : StoreTally := i.journal.actions.foldl count t

end StoreTally

namespace PublisherTally

def zero : PublisherTally := ⟨0, []⟩

def add (p : StandinPublisher) (t : PublisherTally) (i : Invocation) : PublisherTally :=
  ⟨t.attempts + i.batches.length, t.accepted ++ p.accepted i.batches⟩

end PublisherTally

/-- Both stand-ins with what they have counted. -/
structure Session where
  store : StandinStore
  publisher : StandinPublisher
  storeTally : StoreTally
  publisherTally : PublisherTally

namespace Session

def start (store : StandinStore) (publisher : StandinPublisher) : Session :=
  ⟨store, publisher, .zero, .zero⟩

def invoke (s : Session) (c : Config) (clock : Clock) : Invocation × Session :=
  let i := Invocation.run c s.store.store clock s.publisher.publisher
  (i, { s with
    storeTally := s.storeTally.add i
    publisherTally := s.publisherTally.add s.publisher i })

/-- One invocation for each clock. -/
def invokeAll (c : Config) : Session → List Clock → List Invocation × Session
  | s, [] => ([], s)
  | s, clock :: clocks =>
    let (i, s) := s.invoke c clock
    let (is, s) := invokeAll c s clocks
    (i :: is, s)

end Session

end Backlog.Rehearsal
