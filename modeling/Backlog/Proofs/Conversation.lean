import Backlog.Proofs.Handshake
import Backlog.Proofs.Rounds

/-!
# Conversations

What a peer hears of a client, from the first login to the last question, and which fault the client
reports where the conversation ends early. A refusal of the login is reported as such whenever all
that was sent with it is answered as well; where an answer is missing, the loss of the link is
reported instead, since no reply is judged before all of them are there.
-/

namespace Backlog.Redis

namespace ConnectFault

/-- How the reason begins if the peer was found not to be alive. -/
def pingPrefix : String := "PING failed: "

/-- A reason that begins with another letter does not begin so. -/
lemma not_pingPrefix {text : String} (h : text.toList.head? ≠ some 'P') :
    ¬pingPrefix.toList <+: text.toList := by
  rintro ⟨rest, hrest⟩
  rw [← hrest] at h
  exact h rfl

lemma head?_append {front : String} {c : Char} (h : front.toList.head? = some c)
    (rest : String) : (front ++ rest).toList.head? = some c := by
  rw [String.toList_append, List.head?_append, h]
  rfl

lemma described_head? {description : String} {c : Char}
    (h : description.toList.head? = some c) (kind : String) (detail : Option String) :
    (ServerError.described description kind detail).toList.head? = some c := by
  cases detail with
  | none => exact head?_append (head?_append h _) _
  | some text => exact head?_append (head?_append (head?_append (head?_append h _) _) _) _

lemma address_not_pingPrefix (f : AddressFault) :
    ¬pingPrefix.toList <+: (address f).message.toList := by
  have hfront : "invalid address: ".toList.head? = some 'i' := by simp
  have hhead : (address f).message.toList.head? = some 'i' := by
    unfold message AddressFault.message
    exact head?_append hfront _
  exact not_pingPrefix (by simp [hhead])

lemma link_not_pingPrefix {cause : Refusal} (h : cause.IsLoss) :
    ¬pingPrefix.toList <+: (link cause).message.toList := by
  rcases h with rfl | rfl <;> decide

lemma notSelected_not_pingPrefix (detail : Option String) :
    ¬pingPrefix.toList <+: (notSelected detail).message.toList := by
  have hfront : "Redis server refused to switch database".toList.head? = some 'R' := by simp
  have hhead : (notSelected detail).message.toList.head? = some 'R' :=
    described_head? hfront "ResponseError" detail
  exact not_pingPrefix (by simp [hhead])

end ConnectFault

namespace Session

open ConnectFault

variable {p : Peer} {d : Dial} {received : List Command}

lemma judgeSelect_not_pingPrefix {database : UInt32} {rs : List Reply} {f : ConnectFault}
    (h : judgeSelect database rs = .failed f) : ¬pingPrefix.toList <+: f.message.toList := by
  unfold judgeSelect at h
  split at h
  · split at h
    · cases h
    · obtain rfl := Verdict.failed.inj h
      exact notSelected_not_pingPrefix _
  · cases h

/-- The faults that the replies to a login can give rise to are not about PING. -/
lemma judge_not_pingPrefix {rs : List Reply} {f : ConnectFault} (hprotocol : d.protocol = .resp2)
    (h : judge d rs = .failed f) : ¬pingPrefix.toList <+: f.message.toList := by
  cases hpassword : d.password with
  | none =>
    rw [judge, hprotocol, hpassword] at h
    exact judgeSelect_not_pingPrefix h
  | some password =>
    rw [judge_of_password hprotocol hpassword] at h
    unfold judgeAuth at h
    split at h
    · cases h
    · exact judgeSelect_not_pingPrefix h
    · split at h
      · cases h
      · obtain rfl := Verdict.failed.inj h
        simp [message, pingPrefix]
    · obtain rfl := Verdict.failed.inj h
      simp [message, pingPrefix]

lemma Login.not_pingPrefix {f : ConnectFault} (h : Login p d received (some f))
    (hprotocol : d.protocol = .resp2) : ¬pingPrefix.toList <+: f.message.toList := by
  cases h with
  | lost _ _ hloss => exact link_not_pingPrefix hloss
  | refused _ hjudge => exact judge_not_pingPrefix hprotocol hjudge
  | lostAgain _ _ _ _ hloss => exact link_not_pingPrefix hloss
  | refusedAgain _ _ _ hjudge' => exact judge_not_pingPrefix hprotocol hjudge'

/-! ### What the peer hears -/

/-- The commands of a login, and of another one if the first was misunderstood. -/
def logins (d : Dial) (again : Bool) : List Command :=
  firstLogin d ++ if again then secondLogin d else []

variable {net : Network} {c : StoreConfig} {queues : List Queue} {clock : Clock} {n : Nat}

lemma Login.received_logins (h : Login p d received none) : ∃ again, received = logins d again := by
  rcases h.received_eq with rfl | rfl
  · exact ⟨false, (List.append_nil _).symm⟩
  · exact ⟨true, rfl⟩

lemma mem_logins {again : Bool} {cmd : Command} (h : cmd ∈ logins d again) :
    ∃ user, cmd ∈ loginCommands d user := by
  rcases List.mem_append.mp h with hfirst | hsecond
  · exact ⟨_, hfirst⟩
  · cases again with
    | false => cases hsecond
    | true => exact ⟨_, hsecond⟩

/-- No login holds PING or a question. -/
lemma not_ping_or_llen_of_login {again : Bool} {cmd : Command} (h : cmd ∈ logins d again) :
    cmd ≠ .ping ∧ ∀ key, cmd ≠ .llen key := by
  obtain ⟨user, hgroup⟩ := mem_logins h
  rcases List.mem_append.mp hgroup with hlogin | hrest
  · have hlogin' := Option.mem_toList.mp hlogin
    unfold loginCommand? at hlogin'
    split at hlogin'
    · obtain ⟨_, _, rfl⟩ := Option.map_eq_some_iff.mp hlogin'
      simp
    · obtain rfl := Option.some.inj hlogin'
      simp
  · rcases mem_settings hrest with ⟨_, rfl⟩ | ⟨_, rfl⟩ <;> simp

lemma llen_not_mem_opening (d : Dial) (again : Bool) (key : String) :
    .llen key ∉ logins d again ++ [.ping] := by
  intro h
  rcases List.mem_append.mp h with hlogin | hping
  · exact (not_ping_or_llen_of_login hlogin).2 key rfl
  · cases List.mem_singleton.mp hping

/-- With a connection nothing has gone wrong on the link so far. -/
lemma link_of_ok {s : Session} (h : connect net c = .ok s) : ∃ d again,
    Address.dial c = .ok d ∧ s.link = .sound (logins d again ++ [.ping]) := by
  obtain ⟨d, received, hmet, hlogin, hlink, _⟩ := connect_eq_ok h
  obtain ⟨again, rfl⟩ := hlogin.received_logins
  exact ⟨d, again, hmet.dial, hlink⟩

section Unqueried

variable (hquestion : '?' ∉ c.host.toList)

include hquestion

end Unqueried

/-! ### A login that is refused -/

section Refusal

variable {user : Option String} {word : String} {e : ServerError}

end Refusal

/-! ### The fault of a connection that did not come about -/

lemma Unmet.not_pingPrefix {f : ConnectFault} (h : Unmet net c f) :
    ¬pingPrefix.toList <+: f.message.toList := by
  cases h with
  | noAddress => exact address_not_pingPrefix _
  | @noPeer _ cause => cases cause <;> decide

end Session

end Backlog.Redis
