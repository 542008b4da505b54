import Backlog.Proofs.Conversation
import Backlog.Proofs.ReplyFraming
import Mathlib.Data.List.Nodup

/-!
# Replies and the questions they belong to

On a link on which nothing goes wrong, the reply that a round uses for a key is the one that the
peer gave to the question of that round about that key, whatever became of the rounds before. The
same is proved of a client that stops reading at the first reply that is no length and leaves the
others on the wire: since replies frame themselves, those left over are matched with the questions
left over, and dropped, before the next round is settled.
-/

namespace Backlog.Redis

namespace Session

open Invocation Join

/-- All lengths, or the first fault. -/
def together : List (Except Fault UInt64) → Except Fault (List UInt64)
  | [] => .ok []
  | .ok n :: rest => (together rest).map (n :: ·)
  | .error f :: _ => .error f

lemma together_eq_ok_iff {results : List (Except Fault UInt64)} {ns : List UInt64} :
    together results = .ok ns ↔ results = ns.map .ok := by
  constructor
  · intro h
    induction results generalizing ns with
    | nil =>
      obtain rfl := Except.ok.inj h
      rfl
    | cons result rest ih =>
      cases result with
      | error f => cases h
      | ok n =>
        cases hrest : together rest with
        | error f =>
          rw [together, hrest] at h
          cases h
        | ok ms =>
          rw [together, hrest] at h
          obtain rfl := Except.ok.inj h
          rw [ih hrest, List.map_cons]
  · rintro rfl
    induction ns with
    | nil => rfl
    | cons n ns ih =>
      rw [List.map_cons, together, ih]
      rfl

lemma together_eq_error_iff {results : List (Except Fault UInt64)} {f : Fault} :
    together results = .error f ↔ ∃ before after, results = before ++ .error f :: after ∧
      ∀ result ∈ before, ∃ n, result = .ok n := by
  constructor
  · intro h
    induction results with
    | nil => cases h
    | cons result rest ih =>
      cases result with
      | error g =>
        obtain rfl := Except.error.inj h
        exact ⟨[], rest, rfl, by simp⟩
      | ok n =>
        cases hrest : together rest with
        | ok ms =>
          rw [together, hrest] at h
          cases h
        | error g =>
          rw [together, hrest] at h
          obtain rfl := Except.error.inj h
          obtain ⟨before, after, rfl, hbefore⟩ := ih hrest
          refine ⟨.ok n :: before, after, rfl, ?_⟩
          rw [List.forall_mem_cons]
          exact ⟨⟨n, rfl⟩, hbefore⟩
  · rintro ⟨before, after, rfl, hbefore⟩
    induction before with
    | nil => rfl
    | cons result before ih =>
      rw [List.forall_mem_cons] at hbefore
      obtain ⟨⟨n, rfl⟩, hrest⟩ := hbefore
      rw [List.cons_append, together, ih hrest]
      rfl

/-- A round gives all lengths in the order of the queues, or the first fault of the list. -/
theorem readAll_result (s : Session) (queues : List Queue) (clock : Clock) :
    (s.readAll queues clock).1.result.map (List.map Reading.length) =
      together (s.lengths (queues.map Queue.key)).1 := by
  rw [readAll_eq_openVisit]
  have hanswers := answers_openVisit s queues
  have houtcomes : (answers queues (openVisit s (queues.map Queue.key)).1).map Timed.outcome =
      (s.lengths (queues.map Queue.key)).1 := by
    rw [hanswers, timed, List.map_map]
    exact List.map_id _
  by_cases hall : AllRead queues (openVisit s (queues.map Queue.key)).1
  · rw [readAll_of_allRead hall, ← houtcomes, ← readings_outcome hall clock]
    symm
    apply together_eq_ok_iff.mpr
    rw [List.map_map]
    rfl
  · obtain ⟨k, t, f, hfirst⟩ := exists_firstFailure (exists_fails_of_not_allRead hall)
    have hmoment : ∀ a ∈ answers queues (openVisit s (queues.map Queue.key)).1, a.moment = 1 := by
      intro a ha
      rw [hanswers, timed] at ha
      obtain ⟨result, _, rfl⟩ := List.mem_map.mp ha
      rfl
    have hresult := readAll_of_firstFailure hfirst
      (fun a ha => (hmoment a ha).trans (hmoment t (List.mem_of_getElem? hfirst.place)).symm) clock
    rw [hresult, ← houtcomes]
    symm
    apply together_eq_error_iff.mpr
    have hplace : ((answers queues (openVisit s (queues.map Queue.key)).1).map Timed.outcome)[k]? =
        some (.error f) := by
      rw [List.getElem?_map, hfirst.place, Option.map_some, hfirst.error]
    refine ⟨_, _, split_at_place hplace, ?_⟩
    intro result hmem
    obtain ⟨j, hj, hat⟩ := mem_take_place hmem
    rw [List.getElem?_map] at hat
    obtain ⟨a, ha, rfl⟩ := Option.map_eq_some_iff.mp hat
    apply (Timed.not_fails_iff a).mp
    intro hfails
    have := hfirst.least j a ha hfails
    omega

/-- The readings of a round are those of the queues, in their order. -/
lemma readAll_queues {s : Session} {queues : List Queue} {clock : Clock} {rs : List Reading}
    (h : (s.readAll queues clock).1.result = .ok rs) : rs.map Reading.queue = queues := by
  rw [readAll_eq_openVisit] at h
  have hall := allRead_of_readAll_ok h
  rw [readAll_of_allRead hall] at h
  obtain rfl := Except.ok.inj h
  exact readings_queue hall clock

/-! ### Questions by key and round -/

/-- Each question about these keys is answered with one reply, and nothing besides. -/
def Answers (p : Peer) (keys : List String) (reply : String → Nat → Reply) : Prop :=
  ∀ key ∈ keys, ∀ round, ∃ bytes, p.llen key round = .answer bytes ∧
    Resp.value Resp.maxDepth bytes = .ok (reply key round, [])

/-- What the questions of a round come to. -/
def converted (reply : String → Nat → Reply) (keys : List String) (round : Nat) :
    List (Except Fault UInt64) :=
  keys.map fun key => toLength key (.ok (reply key round))

variable {p : Peer} {keys : List String} {reply : String → Nat → Reply} {received : List Command}
  {n : Nat}

lemma sameKind_llen (key other : String) :
    (Command.llen key).sameKind (.llen other) = decide (key = other) := rfl

lemma countP_llen (key : String) (keys : List String) :
    (keys.map Command.llen).countP (Command.llen key).sameKind = keys.count key := by
  rw [List.countP_map, List.count]
  apply List.countP_congr
  intro other _
  simp only [Function.comp_apply, sameKind_llen, decide_eq_true_eq, beq_iff_eq]
  exact eq_comm

/-- In each round each key is asked for once. -/
lemma countP_questions {key : String} (hkey : key ∈ keys) (hdistinct : keys.Nodup) (n : Nat) :
    (questions keys n).countP (Command.llen key).sameKind = n := by
  induction n with
  | zero => rfl
  | succ n ih =>
    rw [questions_succ, List.countP_append, ih, countP_llen,
      List.count_eq_one_of_mem hdistinct hkey]

/-- What a peer replies to the questions of a round, when it has been asked for each of the keys in
as many rounds before. -/
lemma replies_of_round (hdistinct : keys.Nodup)
    (hcount : ∀ key ∈ keys, received.countP (Command.llen key).sameKind = n)
    (hreply : ∀ key ∈ keys, (p.llen key n).reply? = some (reply key n)) :
    p.replies? received (keys.map .llen) = some (keys.map (reply · n)) := by
  induction keys generalizing received with
  | nil => rfl
  | cons key keys ih =>
    obtain ⟨hkey, hdistinct'⟩ := List.nodup_cons.mp hdistinct
    rw [List.forall_mem_cons] at hcount hreply
    have hturn : (p.turn received (.llen key)).reply? = some (reply key n) := by
      rw [Peer.turn, hcount.1]
      exact hreply.1
    -- The question about this key counts for no other key.
    have hrest : ∀ other ∈ keys,
        (received ++ [Command.llen key]).countP (Command.llen other).sameKind = n := by
      intro other hother
      have hne : other ≠ key := fun h => hkey (h ▸ hother)
      rw [List.countP_append, hcount.2 other hother]
      simp [sameKind_llen, hne]
    simp only [List.map_cons, Peer.replies?, hturn, ih hdistinct' hrest hreply.2, Option.map_some]

lemma lengths_of_replies (h : p.replies? received (keys.map .llen) = some (keys.map (reply · n))) :
    lengths ⟨p, .sound received⟩ keys =
      (converted reply keys n, ⟨p, .sound (received ++ keys.map .llen)⟩) := by
  rw [lengths, exchange_of_replies h]
  simp [converted, List.zipWith_map_right, List.zipWith_self]

lemma reply?_of_answers (h : Answers p keys reply) {key : String} (hkey : key ∈ keys) (n : Nat) :
    (p.llen key n).reply? = some (reply key n) := by
  obtain ⟨bytes, hturn, hvalue⟩ := h key hkey n
  rw [hturn, Turn.reply?, Resp.read_of_value hvalue]
  rfl

lemma countP_of_unasked {key : String} (h : .llen key ∉ received) :
    received.countP (Command.llen key).sameKind = 0 := by
  rw [List.countP_eq_zero]
  intro cmd hcmd hsame
  cases cmd with
  | llen other =>
    obtain rfl : key = other := of_decide_eq_true hsame
    exact h hcmd
  | _ => cases hsame

/-- One round, after any number of others. -/
lemma lengths_of_answers (hanswers : Answers p keys reply) (hdistinct : keys.Nodup)
    (hunasked : ∀ key, .llen key ∉ received) (n : Nat) :
    lengths ⟨p, .sound (received ++ questions keys n)⟩ keys =
      (converted reply keys n, ⟨p, .sound (received ++ questions keys (n + 1))⟩) := by
  have hcount : ∀ key ∈ keys,
      (received ++ questions keys n).countP (Command.llen key).sameKind = n := by
    intro key hkey
    rw [List.countP_append, countP_of_unasked (hunasked key), countP_questions hkey hdistinct,
      Nat.zero_add]
  have hreplies := replies_of_round hdistinct hcount
    (fun key hkey => reply?_of_answers hanswers hkey n)
  rw [lengths_of_replies hreplies, questions_succ, List.append_assoc]

variable {queues : List Queue} {clock : Clock}

/-- After so many rounds nothing has gone wrong on the link, and all questions have been heard. -/
lemma readRounds_of_answers (hanswers : Answers p (queues.map Queue.key) reply)
    (hdistinct : (queues.map Queue.key).Nodup) (hunasked : ∀ key, .llen key ∉ received) (n : Nat) :
    (readRounds queues clock n ⟨p, .sound received⟩).2 =
      ⟨p, .sound (received ++ questions (queues.map Queue.key) n)⟩ := by
  induction n with
  | zero =>
    have hnone : questions (queues.map Queue.key) 0 = [] := rfl
    rw [hnone, List.append_nil]
    rfl
  | succ n ih =>
    rw [readRounds_succ, ih]
    exact congrArg Prod.snd (lengths_of_answers hanswers hdistinct hunasked n)

/-- The result of a round is told by the replies to the questions of that round. -/
lemma result_of_answers (hanswers : Answers p (queues.map Queue.key) reply)
    (hdistinct : (queues.map Queue.key).Nodup) (hunasked : ∀ key, .llen key ∉ received)
    {n r : Nat} {joined : Joined Fault Reading}
    (h : (readRounds queues clock n ⟨p, .sound received⟩).1[r]? = some joined) :
    joined.result.map (List.map Reading.length) =
      together (converted reply (queues.map Queue.key) r) := by
  rw [readRounds_of_getElem? h, readRounds_of_answers hanswers hdistinct hunasked, readAll_result,
    lengths_of_answers hanswers hdistinct hunasked]

lemma toLength_ok_iff {key : String} {r : Reply} {n : UInt64} :
    toLength key (.ok r) = .ok n ↔ r.toLength = .ok n := by
  cases hr : r.toLength <;> simp [toLength, hr]

lemma toLength_error_iff {key : String} {r : Reply} {f : Fault} :
    toLength key (.ok r) = .error f ↔
      ∃ cause, r.toLength = .error cause ∧ f = .read key cause.message := by
  cases hr : r.toLength <;> simp [toLength, hr, eq_comm]

end Session

/-! ### A client that leaves replies on the wire -/

/-- A question in flight: the round that asked it, and the key that it is about. -/
structure Pending where
  round : Nat
  key : String

/-- The client's end of a stream that is read no further than a round needs: the questions whose
replies have not been read, the oldest first, and the bytes that hold those replies. -/
structure Stream where
  pending : List Pending
  unread : List UInt8

def Turn.bytes : Turn → List UInt8
  | .answer bytes => bytes
  | .hangUp => []

namespace Stream

open Session

/-- All questions of a round are sent, and answered, before any reply is read. -/
def ask (p : Peer) (keys : List String) (round : Nat) (s : Stream) : Stream where
  pending := s.pending ++ keys.map (Pending.mk round)
  unread := s.unread ++ keys.flatMap fun key => (p.llen key round).bytes

/-- Reads replies until a round is settled. Each is that of the oldest question, and it is dropped
if the question is one of an earlier round. At the first that is no length the round has failed, and
whatever else is in flight is left there. -/
def settle (round : Nat) : List Pending → List UInt8 → Except Fault (List UInt64) × Stream
  | [], unread => (.ok [], ⟨[], unread⟩)
  | q :: rest, unread =>
    match Resp.value Resp.maxDepth unread with
    | .error .malformed => (.error (.read q.key Refusal.garbled.message), ⟨rest, unread⟩)
    | .error .incomplete => (.error (.read q.key Refusal.closed.message), ⟨rest, unread⟩)
    | .ok (reply, unread) =>
      if q.round < round then settle round rest unread
      else
        match toLength q.key (.ok reply) with
        | .error f => (.error f, ⟨rest, unread⟩)
        | .ok n =>
          let (lengths, s) := settle round rest unread
          (lengths.map (n :: ·), s)

/-- So many rounds, the first of them under this number. -/
def rounds (p : Peer) (keys : List String) :
    Nat → Nat → Stream → List (Except Fault (List UInt64)) × Stream
  | 0, _, s => ([], s)
  | n + 1, round, s =>
    let asked := s.ask p keys round
    let (lengths, s) := settle round asked.pending asked.unread
    let (rest, s) := rounds p keys n (round + 1) s
    (lengths :: rest, s)

/-- The bytes that hold the replies to some questions. -/
def replyBytes (p : Peer) (questions : List Pending) : List UInt8 :=
  questions.flatMap fun q => (p.llen q.key q.round).bytes

/-- The unread bytes are the replies to the pending questions, all of them of earlier rounds. -/
structure Aligned (p : Peer) (keys : List String) (round : Nat) (s : Stream) : Prop where
  earlier : ∀ q ∈ s.pending, q.round < round ∧ q.key ∈ keys
  unread : s.unread = replyBytes p s.pending

variable {p : Peer} {keys : List String} {reply : String → Nat → Reply} {round : Nat}

lemma ask_unread {s : Stream} (h : s.Aligned p keys round) :
    (s.ask p keys round).unread = replyBytes p (s.ask p keys round).pending := by
  simp only [ask, replyBytes, h.unread, List.flatMap_append, List.flatMap_map]

/-- The next reply on the wire is the one to the oldest question. -/
lemma value_of_answers (hanswers : Answers p keys reply) {q : Pending} (hkey : q.key ∈ keys)
    (rest : List Pending) : Resp.value Resp.maxDepth (replyBytes p (q :: rest)) =
      .ok (reply q.key q.round, replyBytes p rest) := by
  obtain ⟨bytes, hturn, hvalue⟩ := hanswers q.key hkey q.round
  have hsplit : replyBytes p (q :: rest) = bytes ++ replyBytes p rest := by
    simp only [replyBytes, List.flatMap_cons, hturn, Turn.bytes]
  rw [hsplit]
  exact Resp.framed_value Resp.maxDepth bytes _ [] (replyBytes p rest) hvalue

/-- Questions of the round alone: the round comes to all lengths or the first fault, and what is
left over of it is older than the next round. -/
lemma settle_asked (hanswers : Answers p keys reply) {asked : List String}
    (hasked : ∀ key ∈ asked, key ∈ keys) :
    let settled := settle round (asked.map (Pending.mk round))
      (replyBytes p (asked.map (Pending.mk round)))
    settled.1 = together (converted reply asked round) ∧
      settled.2.Aligned p keys (round + 1) := by
  induction asked with
  | nil => exact ⟨rfl, by simp [settle], rfl⟩
  | cons key asked ih =>
    rw [List.forall_mem_cons] at hasked
    have hrest := ih hasked.2
    have hvalue := value_of_answers hanswers (q := ⟨round, key⟩) hasked.1
      (asked.map (Pending.mk round))
    simp only [List.map_cons, settle, hvalue, converted, Nat.lt_irrefl, if_false]
    cases hlength : toLength key (.ok (reply key round)) with
    | error f =>
      refine ⟨rfl, ?_, rfl⟩
      intro q hq
      obtain ⟨other, hother, rfl⟩ := List.mem_map.mp hq
      exact ⟨Nat.lt_succ_self round, hasked.2 other hother⟩
    | ok n =>
      refine ⟨?_, hrest.2⟩
      simp only [hrest.1, together, converted]

/-- Replies left over from earlier rounds are dropped, and then the round is settled. -/
lemma settle_aligned (hanswers : Answers p keys reply) {s : Stream} (h : s.Aligned p keys round) :
    let settled := settle round (s.ask p keys round).pending (s.ask p keys round).unread
    settled.1 = together (converted reply keys round) ∧ settled.2.Aligned p keys (round + 1) := by
  rw [ask_unread h]
  have hearlier := h.earlier
  simp only [ask]
  generalize s.pending = old at hearlier ⊢
  induction old with
  | nil => exact settle_asked hanswers fun key hkey => hkey
  | cons q old ih =>
    rw [List.forall_mem_cons] at hearlier
    have hvalue := value_of_answers hanswers hearlier.1.2 (old ++ keys.map (Pending.mk round))
    simp only [List.cons_append, settle, hvalue, if_pos hearlier.1.1]
    exact ih hearlier.2

/-- Whatever failed before, each round comes to what the replies to its own questions come to, and
no reply is left without its question. -/
theorem rounds_aligned (hanswers : Answers p keys reply) (n : Nat) {s : Stream}
    (h : s.Aligned p keys round) :
    (rounds p keys n round s).1 =
        (List.range' round n).map (fun r => together (converted reply keys r)) ∧
      (rounds p keys n round s).2.Aligned p keys (round + n) := by
  induction n generalizing round s with
  | zero => exact ⟨rfl, h⟩
  | succ n ih =>
    obtain ⟨hlengths, haligned⟩ := settle_aligned hanswers h
    obtain ⟨hrest, hlast⟩ := ih haligned
    refine ⟨?_, ?_⟩
    · simp only [rounds, hlengths, hrest, List.range'_succ, List.map_cons]
    · rw [Nat.add_assoc, Nat.add_comm 1] at hlast
      exact hlast

end Stream

namespace Session

/-! ### Round after round -/

/-- A result that comes of the replies to the questions about these queues. -/
structure Paired (queues : List Queue) (reply : String → Reply)
    (result : Except Fault (List Reading)) : Prop where
  succeeds : (∃ rs, result = .ok rs) ↔ ∀ q ∈ queues, ∃ n, (reply q.key).toLength = .ok n
  lengths : ∀ rs, result = .ok rs → rs.map Reading.queue = queues ∧
    rs.map (fun r => .ok r.length) = queues.map fun q => (reply q.key).toLength
  /-- The fault is about the first queue of the list whose reply is no length. -/
  fails : ∀ f, result = .error f → ∃ before q after cause, queues = before ++ q :: after ∧
    (∀ q' ∈ before, ∃ n, (reply q'.key).toLength = .ok n) ∧
    (reply q.key).toLength = .error cause ∧ f = .read q.key cause.message

section Pairing

variable {queues : List Queue} {reply : String → Nat → Reply} {round : Nat}

lemma converted_eq : converted reply (queues.map Queue.key) round =
    queues.map fun q => toLength q.key (.ok (reply q.key round)) := by
  rw [converted, List.map_map]
  rfl

lemma lengths_of_together {rs : List Reading}
    (h : together (converted reply (queues.map Queue.key) round) = .ok (rs.map Reading.length)) :
    rs.map (fun r => .ok r.length) = queues.map fun q => (reply q.key round).toLength := by
  rw [together_eq_ok_iff, converted_eq, List.map_map] at h
  apply List.ext_getElem?
  intro i
  have hi := congrArg (·[i]?) h
  simp only [List.getElem?_map] at hi ⊢
  cases hq : queues[i]? with
  | none =>
    rw [hq] at hi
    cases hr : rs[i]? with
    | none => rfl
    | some r =>
      rw [hr] at hi
      cases hi
  | some q =>
    rw [hq] at hi
    cases hr : rs[i]? with
    | none =>
      rw [hr] at hi
      cases hi
    | some r =>
      rw [hr] at hi
      have hlength := toLength_ok_iff.mp (Option.some.inj hi)
      simp only [Option.map_some, hlength]

lemma fault_of_together {f : Fault}
    (h : together (converted reply (queues.map Queue.key) round) = .error f) :
    ∃ before q after cause, queues = before ++ q :: after ∧
      (∀ q' ∈ before, ∃ n, (reply q'.key round).toLength = .ok n) ∧
      (reply q.key round).toLength = .error cause ∧ f = .read q.key cause.message := by
  obtain ⟨_, _, hsplit, hbefore⟩ := together_eq_error_iff.mp h
  rw [converted_eq] at hsplit
  obtain ⟨before, rest, rfl, rfl, hrest⟩ := List.map_eq_append_iff.mp hsplit
  obtain ⟨q, after, rfl, hq, rfl⟩ := List.map_eq_cons_iff.mp hrest
  obtain ⟨cause, hcause, hfault⟩ := toLength_error_iff.mp hq
  refine ⟨before, q, after, cause, rfl, ?_, hcause, hfault⟩
  intro q' hq'
  obtain ⟨n, hn⟩ := hbefore _ (List.mem_map_of_mem hq')
  exact ⟨n, toLength_ok_iff.mp hn⟩

lemma paired_of_together {result : Except Fault (List Reading)}
    (h : result.map (List.map Reading.length) =
      together (converted reply (queues.map Queue.key) round))
    (hqueues : ∀ rs, result = .ok rs → rs.map Reading.queue = queues) :
    Paired queues (reply · round) result := by
  cases result with
  | ok rs =>
    have hlengths := lengths_of_together h.symm
    constructor
    · refine iff_of_true ⟨rs, rfl⟩ ?_
      intro q hq
      have hmem := List.mem_map_of_mem (f := fun q => (reply q.key round).toLength) hq
      rw [← hlengths] at hmem
      obtain ⟨r, _, hr⟩ := List.mem_map.mp hmem
      exact ⟨r.length, hr.symm⟩
    · rintro rs' ⟨⟩
      exact ⟨hqueues rs rfl, hlengths⟩
    · intro f hf
      cases hf
  | error f =>
    obtain ⟨before, q, after, cause, rfl, hbefore, hcause, hfault⟩ := fault_of_together h.symm
    constructor
    · refine iff_of_false (by simp) ?_
      intro hall
      obtain ⟨n, hn⟩ := hall q (by simp)
      rw [hcause] at hn
      cases hn
    · intro rs hrs
      cases hrs
    · rintro f' ⟨⟩
      exact ⟨before, q, after, cause, rfl, hbefore, hcause, hfault⟩

end Pairing

/-- On one connection, with each question about distinct keys answered by one reply: the peer hears
one question for each queue, round after round. Each round comes to the lengths that its own replies
convert to, in the order of the queues, or to the fault of the first queue whose reply does not
convert, whatever became of the rounds before. A client that stops reading where a round fails, and
finds the rest of its replies on the wire later, has the same results. -/
theorem rounds_stay_paired (net : Network) (c : StoreConfig) (s : Session) (queues : List Queue)
    (clock : Clock) (reply : String → Nat → Reply) (n : Nat) (hok : connect net c = .ok s)
    (hdistinct : (queues.map Queue.key).Nodup)
    (hanswers : Answers s.peer (queues.map Queue.key) reply) :
    let rounds := readRounds queues clock n s
    rounds.2.link.received = s.link.received ++ questions (queues.map Queue.key) n ∧
      (questions (queues.map Queue.key) n).map Command.words =
        questionWords (queues.map Queue.key) n ∧
      rounds.1.length = n ∧
      (∀ r joined, rounds.1[r]? = some joined → Paired queues (reply · r) joined.result) ∧
      (Stream.rounds s.peer (queues.map Queue.key) n 0 ⟨[], []⟩).1 =
        rounds.1.map fun joined => joined.result.map (List.map Reading.length) := by
  intro rounds
  obtain ⟨d, again, _, hlink⟩ := link_of_ok hok
  obtain ⟨p, link⟩ := s
  obtain rfl : link = .sound (logins d again ++ [.ping]) := hlink
  have hunasked : ∀ key, .llen key ∉ logins d again ++ [.ping] := llen_not_mem_opening d again
  have hresult : ∀ r joined, rounds.1[r]? = some joined →
      joined.result.map (List.map Reading.length) =
        together (converted reply (queues.map Queue.key) r) := by
    intro r joined hjoined
    exact result_of_answers hanswers hdistinct hunasked hjoined
  refine ⟨?_, words_questions _ n, readRounds_length n _, ?_, ?_⟩
  · exact congrArg (fun s => s.link.received)
      (readRounds_of_answers hanswers hdistinct hunasked n)
  · intro r joined hjoined
    apply paired_of_together (hresult r joined hjoined)
    intro rs hrs
    rw [readRounds_of_getElem? hjoined] at hrs
    exact readAll_queues hrs
  · have haligned : Stream.Aligned p (queues.map Queue.key) 0 ⟨[], []⟩ := ⟨by simp, rfl⟩
    rw [(Stream.rounds_aligned hanswers n haligned).1]
    have hlength : rounds.1.length = n := readRounds_length n _
    apply List.ext_getElem
    · rw [List.length_map, List.length_map, List.length_range', hlength]
    · intro r _ hr
      rw [List.length_map] at hr
      rw [List.getElem_map, List.getElem_map, List.getElem_range', Nat.one_mul, Nat.zero_add]
      exact (hresult r _ (List.getElem?_eq_getElem hr)).symm

/-- A peer that is still loading when it is asked for the first time about the first queue. -/
def loadingPeer : Peer :=
  { obliging with
    llen := fun key round =>
      if key = "urls" ∧ round = 0 then .answer (Utf8.encode "-LOADING wait\r\n")
      else .answer (Utf8.encode ":5\r\n") }

def loadingReply (key : String) (round : Nat) : Reply :=
  if key = "urls" ∧ round = 0 then .error ⟨"LOADING", some "wait"⟩ else .int 5

def unguardedStore : StoreConfig := ⟨"127.0.0.1", 6379, none, 0, true⟩

/-- Its first round fails before the second reply is looked at, and the second round is right. -/
theorem loading_rounds_stay_paired :
    ∃ s, connect (fun _ _ _ => .ok loadingPeer) unguardedStore = .ok s ∧
      (Queue.defaults.map Queue.key).Nodup ∧
      Answers s.peer (Queue.defaults.map Queue.key) loadingReply ∧
      let rounds := readRounds Queue.defaults Instant.ofMilliseconds 2 s
      rounds.2.link.received = s.link.received ++ questions (Queue.defaults.map Queue.key) 2 ∧
        (questions (Queue.defaults.map Queue.key) 2).map Command.words =
          questionWords (Queue.defaults.map Queue.key) 2 ∧
        rounds.1.length = 2 ∧
        (∀ r joined, rounds.1[r]? = some joined →
          Paired Queue.defaults (loadingReply · r) joined.result) ∧
        (Stream.rounds s.peer (Queue.defaults.map Queue.key) 2 0 ⟨[], []⟩).1 =
          rounds.1.map fun joined => joined.result.map (List.map Reading.length) := by
  have hok : (connect (fun _ _ _ => .ok loadingPeer) unguardedStore).toOption.isSome = true := by
    decide +kernel
  cases hconnect : connect (fun _ _ _ => .ok loadingPeer) unguardedStore with
  | error u =>
    rw [hconnect] at hok
    cases hok
  | ok s =>
    obtain ⟨_, _, hmet, _⟩ := connect_eq_ok hconnect
    have hdistinct : (Queue.defaults.map Queue.key).Nodup := by decide
    have hanswers : Answers s.peer (Queue.defaults.map Queue.key) loadingReply := by
      rw [← Except.ok.inj hmet.peer]
      intro key _ round
      by_cases hfirst : key = "urls" ∧ round = 0
      · exact ⟨_, if_pos hfirst, by rw [loadingReply, if_pos hfirst]; rfl⟩
      · exact ⟨_, if_neg hfirst, by rw [loadingReply, if_neg hfirst]; rfl⟩
    exact ⟨s, rfl, hdistinct, hanswers, rounds_stay_paired _ unguardedStore s Queue.defaults
      Instant.ofMilliseconds loadingReply 2 hconnect hdistinct hanswers⟩

end Session

end Backlog.Redis
