import Backlog.Redis.Session
import Mathlib.Data.List.Basic
import Mathlib.Tactic.Common

/-!
# Exchanges

As long as nothing has gone wrong on a link, what an exchange brings is told by the turns of the
peer: all replies, and the link is as good as before, or a loss, and the peer has received the
commands up to some point.
-/

namespace Backlog.Redis

/-- The reply that can be read off a turn, if there is one. -/
def Turn.reply? : Turn → Option Reply
  | .answer bytes => (Resp.read bytes).toOption
  | .hangUp => none

/-- What a peer replies to commands sent one after the other, if it has a reply to each. -/
def Peer.replies? (p : Peer) (received : List Command) : List Command → Option (List Reply)
  | [] => some []
  | c :: cs =>
    match (p.turn received c).reply? with
    | none => none
    | some r => (p.replies? (received ++ [c]) cs).map (r :: ·)

lemma Peer.replies?_cons {p : Peer} {received rest : List Command} {c : Command} {rs : List Reply}
    (h : p.replies? received (c :: rest) = some rs) :
    ∃ r rs', rs = r :: rs' ∧ (p.turn received c).reply? = some r ∧
      p.replies? (received ++ [c]) rest = some rs' := by
  rw [replies?] at h
  split at h
  · cases h
  · next r hr =>
    obtain ⟨rs', hrs', rfl⟩ := Option.map_eq_some_iff.mp h
    exact ⟨r, rs', rfl, hr, hrs'⟩

/-- The reply did not come or could not be read. -/
def Refusal.IsLoss (r : Refusal) : Prop := r = .closed ∨ r = .garbled

namespace Link

/-- A link on which nothing has gone wrong. -/
def sound (received : List Command) : Link := ⟨received, true, true⟩

@[simp] lemma sound_received (received : List Command) : (sound received).received = received := rfl

variable {p : Peer} {received : List Command}

lemma send_of_reply {c : Command} {r : Reply} (h : (p.turn received c).reply? = some r) :
    send p (sound received) c = (.ok r, sound (received ++ [c])) := by
  cases hturn : p.turn received c with
  | hangUp => simp [hturn, Turn.reply?] at h
  | answer bytes =>
    cases hread : Resp.read bytes with
    | error trouble => simp [hturn, Turn.reply?, hread, Except.toOption] at h
    | ok reply =>
      obtain rfl : reply = r := by simpa [hturn, Turn.reply?, hread, Except.toOption] using h
      simp [send, sound, hturn, hread]

lemma send_of_no_reply {c : Command} (h : (p.turn received c).reply? = none) :
    ∃ cause, (send p (sound received) c).1 = .error cause ∧ cause.IsLoss := by
  cases hturn : p.turn received c with
  | hangUp => exact ⟨.closed, by simp [send, sound, hturn], Or.inl rfl⟩
  | answer bytes =>
    cases hread : Resp.read bytes with
    | ok reply => simp [hturn, Turn.reply?, hread, Except.toOption] at h
    | error trouble =>
      cases trouble with
      | malformed => exact ⟨.garbled, by simp [send, sound, hturn, hread], Or.inr rfl⟩
      | incomplete => exact ⟨.closed, by simp [send, sound, hturn, hread], Or.inl rfl⟩

/-- A command reaches the peer unless the link is closed. -/
lemma send_received (p : Peer) (l : Link) (c : Command) :
    l.listening = false ∧ (send p l c).2 = l ∨
      (send p l c).2.received = l.received ++ [c] := by
  unfold send
  split
  · next hclosed => exact Or.inl ⟨by simpa using hclosed, rfl⟩
  · dsimp only
    split
    · exact Or.inr rfl
    · split
      · exact Or.inr rfl
      · split <;> exact Or.inr rfl

lemma sendEach_of_closed {l : Link} (h : l.listening = false) (cs : List Command) :
    (sendEach p l cs).2 = l := by
  induction cs with
  | nil => rfl
  | cons c cs ih => simp [sendEach, send, h, ih]

/-- Of the commands of an exchange the peer receives those up to some point. -/
lemma sendEach_received (p : Peer) (l : Link) (cs : List Command) :
    ∃ heard, heard <+: cs ∧ (sendEach p l cs).2.received = l.received ++ heard := by
  induction cs generalizing l with
  | nil => exact ⟨[], List.prefix_rfl, (List.append_nil _).symm⟩
  | cons c cs ih =>
    rcases send_received p l c with ⟨hclosed, hsame⟩ | hmore
    · refine ⟨[], List.nil_prefix, ?_⟩
      simp only [sendEach, hsame, sendEach_of_closed hclosed, List.append_nil]
    · obtain ⟨heard, hpre, hreceived⟩ := ih (send p l c).2
      refine ⟨c :: heard, List.cons_prefix_cons.mpr ⟨rfl, hpre⟩, ?_⟩
      simp only [sendEach, hreceived, hmore]
      simp

lemma sendEach_length (p : Peer) (l : Link) (cs : List Command) :
    (sendEach p l cs).1.length = cs.length := by
  induction cs generalizing l with
  | nil => rfl
  | cons c cs ih => simp [sendEach, ih]

lemma sendEach_of_replies {cs : List Command} {rs : List Reply}
    (h : p.replies? received cs = some rs) :
    sendEach p (sound received) cs = (rs.map .ok, sound (received ++ cs)) := by
  induction cs generalizing received rs with
  | nil =>
    obtain rfl : [] = rs := Option.some.inj h
    simp [sendEach]
  | cons c cs ih =>
    rw [Peer.replies?] at h
    split at h
    · cases h
    · next r hr =>
      obtain ⟨rs', hrs', rfl⟩ := Option.map_eq_some_iff.mp h
      simp [sendEach, send_of_reply hr, ih hrs']

/-- Every reply came, and the link is as good as before. -/
theorem exchange_of_replies {cs : List Command} {rs : List Reply}
    (h : p.replies? received cs = some rs) :
    exchange p (sound received) cs = (rs.map .ok, sound (received ++ cs)) := by
  simp only [exchange, sendEach_of_replies h]
  rfl

end Link

namespace Session

variable {p : Peer} {received : List Command}

lemma replies_map_ok (rs : List Reply) : replies (rs.map .ok) = .ok rs := by
  induction rs with
  | nil => rfl
  | cons r rs ih => simp [replies, ih, Except.map]

/-- Where replies are missing, the first that is missing tells of the loss. -/
lemma replies_of_no_replies {cs : List Command} (h : p.replies? received cs = none) :
    ∃ cause, replies (Link.sendEach p (.sound received) cs).1 = .error (.link cause) ∧
      cause.IsLoss := by
  induction cs generalizing received with
  | nil => cases h
  | cons c cs ih =>
    rw [Peer.replies?] at h
    split at h
    · next hnone =>
      obtain ⟨cause, hcause, hloss⟩ := Link.send_of_no_reply hnone
      exact ⟨cause, by simp [Link.sendEach, hcause, replies], hloss⟩
    · next r hr =>
      obtain ⟨cause, hcause, hloss⟩ := ih (Option.map_eq_none_iff.mp h)
      refine ⟨cause, ?_, hloss⟩
      simp [Link.sendEach, Link.send_of_reply hr, replies, hcause, Except.map]

lemma exchange_of_replies {cs : List Command} {rs : List Reply}
    (h : p.replies? received cs = some rs) :
    exchange ⟨p, .sound received⟩ cs = (rs.map .ok, ⟨p, .sound (received ++ cs)⟩) := by
  simp [exchange, Link.exchange_of_replies h]

/-- The commands of an exchange reach the peer up to some point, whatever becomes of the replies. -/
lemma exchange_received (s : Session) (cs : List Command) :
    ∃ heard, heard <+: cs ∧ (s.exchange cs).2.link.received = s.link.received ++ heard :=
  Link.sendEach_received s.peer s.link cs

lemma exchange_length (s : Session) (cs : List Command) :
    (s.exchange cs).1.length = cs.length :=
  Link.sendEach_length s.peer s.link cs

end Session

/-- A peer that takes whatever it is told, and whose lists are all empty. -/
def obliging : Peer where
  auth _ := .answer (Utf8.encode "+OK\r\n")
  hello _ := .answer (Utf8.encode "%0\r\n")
  select _ := .answer (Utf8.encode "+OK\r\n")
  setInfo _ := .answer (Utf8.encode "+OK\r\n")
  ping _ := .answer (Utf8.encode "+PONG\r\n")
  llen _ _ := .answer (Utf8.encode ":0\r\n")

end Backlog.Redis
