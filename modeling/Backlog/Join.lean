/-!
Waiting for many answers at once. All are asked for before any is waited for, unless one fails at
once; the list of answers keeps the order of the questions.
-/

namespace Backlog

/-- An answer that comes without suspension or after so many milliseconds. -/
structure Timed (α : Type) where
  delay : Option Nat
  outcome : α

namespace Timed

def wait {α : Type} (t : Timed α) : Nat := t.delay.getD 0

end Timed

/-- An answer asked for: still to come at a moment, or here. -/
inductive Slot (ε α : Type) where
  | waiting (due : Nat) (outcome : Except ε α)
  | settled (outcome : Except ε α)

namespace Slot

variable {ε α : Type}

def ofTimed (t : Timed (Except ε α)) : Slot ε α :=
  match t.delay with
  | none => .settled t.outcome
  | some ms => .waiting ms t.outcome

def due? : Slot ε α → Option Nat
  | waiting due _ => some due
  | settled _ => none

def settle (now : Nat) : Slot ε α → Slot ε α
  | waiting due outcome => if due ≤ now then .settled outcome else .waiting due outcome
  | settled outcome => .settled outcome

def value? : Slot ε α → Option α
  | settled (.ok a) => some a
  | _ => none

end Slot

/-- Which failure ends the wait: any that is here, the first in the list if there are several, or
only one before which nothing is still to come. -/
inductive JoinPolicy where
  | anyFailure
  | inOrder
deriving DecidableEq, Repr

structure Joined (ε α : Type) where
  started : Nat
  elapsed : Nat
  result : Except ε (List α)

namespace Join

variable {ε α : Type}

/-- Up to thirty answers are watched one by one, more through a queue that keeps their order. -/
def policy (count : Nat) : JoinPolicy := if count ≤ 30 then .anyFailure else .inOrder

def failure? (p : JoinPolicy) : List (Slot ε α) → Option ε
  | [] => none
  | .settled (.ok _) :: rest => failure? p rest
  | .settled (.error e) :: _ => some e
  | .waiting _ _ :: rest =>
    match p with
    | .anyFailure => failure? p rest
    | .inOrder => none

/-- Asks one question after the other until a failure ends it. -/
def launch (p : JoinPolicy) (asked : List (Slot ε α)) :
    List (Timed (Except ε α)) → List (Slot ε α) × Option ε
  | [] => (asked, none)
  | t :: rest =>
    match failure? p (asked ++ [.ofTimed t]) with
    | some e => (asked ++ [.ofTimed t], some e)
    | none => launch p (asked ++ [.ofTimed t]) rest

def nextDue? (slots : List (Slot ε α)) : Option Nat :=
  match slots.filterMap Slot.due? with
  | [] => none
  | d :: ds => some (ds.foldl Nat.min d)

/-- Wakes at each moment at which an answer comes. One at least comes at each, so as many steps as
there are slots are enough. -/
def wake (p : JoinPolicy) : Nat → Nat → List (Slot ε α) → Nat × Except ε (List α)
  | 0, now, slots => (now, .ok (slots.filterMap Slot.value?))
  | steps + 1, now, slots =>
    match nextDue? slots with
    | none => (now, .ok (slots.filterMap Slot.value?))
    | some due =>
      let slots := slots.map (Slot.settle due)
      match failure? p slots with
      | some e => (due, .error e)
      | none => wake p steps due slots

def run (answers : List (Timed (Except ε α))) : Joined ε α :=
  let p := policy answers.length
  match launch p [] answers with
  | (slots, some e) => ⟨slots.length, 0, .error e⟩
  | (slots, none) =>
    let woken := wake p slots.length 0 slots
    ⟨slots.length, woken.1, woken.2⟩

end Join

end Backlog
