import Backlog.Proofs.Exchange
import Backlog.Proofs.ReadAll
import Backlog.Redis.Session

/-!
# Rounds of questions

A session asks for the lengths of all queues, round after round. A round is the read of an open
visit, so what is known of such reads holds of every round; and a round that follows others starts
where they have left the session.
-/

namespace Backlog.Redis

namespace Link

variable {p : Peer} {l : Link}

end Link

namespace Session

/-- The questions of so many rounds. -/
def questions (keys : List String) (n : Nat) : List Command :=
  (List.replicate n (keys.map Command.llen)).flatten

/-- The same as the words that go over the wire. -/
def questionWords (keys : List String) (n : Nat) : List (List String) :=
  (List.replicate n (keys.map fun key => ["LLEN", key])).flatten

lemma words_questions (keys : List String) (n : Nat) :
    (questions keys n).map Command.words = questionWords keys n := by
  have hround : (keys.map Command.llen).map Command.words = keys.map fun key => ["LLEN", key] :=
    List.map_map
  rw [questions, questionWords, List.map_flatten, List.map_replicate, hround]

lemma questions_succ (keys : List String) (n : Nat) :
    questions keys (n + 1) = questions keys n ++ keys.map Command.llen := by
  rw [questions, questions, List.replicate_succ', List.flatten_append, List.flatten_singleton]

variable {queues : List Queue} {clock : Clock}

lemma lengths_length (s : Session) (keys : List String) :
    (s.lengths keys).1.length = keys.length := by
  simp [lengths, exchange_length]

/-- The answers of a round are those of an open visit. -/
lemma answers_openVisit (s : Session) (queues : List Queue) :
    Invocation.answers queues (openVisit s (queues.map Queue.key)).1 =
      timed (s.lengths (queues.map Queue.key)).1 := by
  have hlength : (s.lengths (queues.map Queue.key)).1.length = queues.length := by
    rw [lengths_length, List.length_map]
  apply List.ext_getElem?
  intro i
  rw [Invocation.answers_getElem?, timed, List.getElem?_map]
  by_cases hi : i < queues.length
  · rw [List.getElem?_eq_getElem hi, List.getElem?_eq_getElem (hlength ▸ hi)]
    simp [openVisit, List.getD_eq_getElem?_getD, List.getElem?_eq_getElem (hlength ▸ hi)]
  · rw [List.getElem?_eq_none (by omega), List.getElem?_eq_none (by omega)]
    rfl

lemma readAll_eq_openVisit (s : Session) (queues : List Queue) (clock : Clock) :
    (s.readAll queues clock).1 = Invocation.readAll queues
      (Invocation.answers queues (openVisit s (queues.map Queue.key)).1) clock := by
  rw [answers_openVisit]
  rfl

lemma toLength_error {key : String} {o : Outcome} {f : Fault} (h : toLength key o = .error f) :
    ∃ reason, f = .read key reason := by
  cases o with
  | error cause => exact ⟨_, (Except.error.inj h).symm⟩
  | ok r =>
    cases hr : r.toLength with
    | ok n => simp [toLength, hr] at h
    | error cause =>
      simp only [toLength, hr] at h
      exact ⟨_, (Except.error.inj h).symm⟩

/-- The last round follows all others. -/
lemma readRounds_succ (n : Nat) (s : Session) : (readRounds queues clock (n + 1) s).2 =
    ((readRounds queues clock n s).2.readAll queues clock).2 := by
  induction n generalizing s with
  | zero => rfl
  | succ n ih => exact ih (s.readAll queues clock).2

/-- A round reads from the session that the rounds before it have left. -/
lemma readRounds_getElem? (n r : Nat) (s : Session) : (readRounds queues clock n s).1[r]? =
    if r < n then some ((readRounds queues clock r s).2.readAll queues clock).1 else none := by
  induction n generalizing r s with
  | zero => simp [readRounds]
  | succ n ih =>
    cases r with
    | zero => simp [readRounds]
    | succ r =>
      have hrest := ih r (s.readAll queues clock).2
      simp only [readRounds, List.getElem?_cons_succ, hrest, Nat.succ_lt_succ_iff]

lemma readRounds_of_getElem? {n r : Nat} {s : Session} {joined : Joined Fault Reading}
    (h : (readRounds queues clock n s).1[r]? = some joined) :
    joined = ((readRounds queues clock r s).2.readAll queues clock).1 := by
  rw [readRounds_getElem?] at h
  split at h
  · exact (Option.some.inj h).symm
  · cases h

lemma readRounds_length (n : Nat) (s : Session) :
    (readRounds queues clock n s).1.length = n := by
  induction n generalizing s with
  | zero => rfl
  | succ n ih => exact congrArg Nat.succ (ih (s.readAll queues clock).2)

end Session

end Backlog.Redis
