import Backlog.Proofs.Dialing
import Backlog.Proofs.Exchange

/-!
# The courses of a handshake

A login sends one group of commands, and a second one without user name if the first was answered
with a complaint about the number of arguments. Each course that this can take is one case of
`Login`, told by the replies of the peer; a handshake adds the check that the peer is alive. From
the courses it is read off under which answers a connection with a password comes about.
-/

namespace Backlog.Redis

namespace Session

/-- The commands of a first and of a second login. -/
def firstLogin (d : Dial) : List Command := loginCommands d d.user

def secondLogin (d : Dial) : List Command := loginCommands d none

/-- The courses of a login: what the peer has received after it, and the fault if it fails. -/
inductive Login (p : Peer) (d : Dial) : List Command → Option ConnectFault → Prop where
  | lost {heard : List Command} {cause : Refusal} (hheard : heard <+: firstLogin d)
    (hreplies : p.replies? [] (firstLogin d) = none) (hloss : cause.IsLoss) :
    Login p d heard (some (.link cause))
  | refused {rs : List Reply} {f : ConnectFault}
    (hreplies : p.replies? [] (firstLogin d) = some rs) (hjudge : judge d rs = .failed f) :
    Login p d (firstLogin d) (some f)
  | passed {rs : List Reply} (hreplies : p.replies? [] (firstLogin d) = some rs)
    (hjudge : judge d rs = .passed) : Login p d (firstLogin d) none
  | lostAgain {rs : List Reply} {heard : List Command} {cause : Refusal}
    (hreplies : p.replies? [] (firstLogin d) = some rs)
    (hjudge : judge d rs = .withoutUser) (hheard : heard <+: secondLogin d)
    (hreplies' : p.replies? (firstLogin d) (secondLogin d) = none) (hloss : cause.IsLoss) :
    Login p d (firstLogin d ++ heard) (some (.link cause))
  | refusedAgain {rs rs' : List Reply} {f : ConnectFault}
    (hreplies : p.replies? [] (firstLogin d) = some rs)
    (hjudge : judge d rs = .withoutUser)
    (hreplies' : p.replies? (firstLogin d) (secondLogin d) = some rs')
    (hjudge' : judge d rs' = .failed f) :
    Login p d (firstLogin d ++ secondLogin d) (some f)
  | passedAgain {rs rs' : List Reply} (hreplies : p.replies? [] (firstLogin d) = some rs)
    (hjudge : judge d rs = .withoutUser)
    (hreplies' : p.replies? (firstLogin d) (secondLogin d) = some rs')
    (hjudge' : ∀ f, judge d rs' ≠ .failed f) :
    Login p d (firstLogin d ++ secondLogin d) none

/-- A session on a new link. -/
def start (p : Peer) : Session := ⟨p, .sound []⟩

/-- What a login results in. -/
def loggedIn (p : Peer) (received : List Command) : Option ConnectFault → Except Unopened Session
  | some f => .error ⟨f, received⟩
  | none => .ok ⟨p, .sound received⟩

variable {p : Peer} {d : Dial}

lemma loginWithoutUser_of_replies {received : List Command} {rs : List Reply}
    (h : p.replies? received (secondLogin d) = some rs) :
    loginWithoutUser ⟨p, .sound received⟩ d = match judge d rs with
      | .failed f => .error ⟨f, received ++ secondLogin d⟩
      | .passed => .ok ⟨p, .sound (received ++ secondLogin d)⟩
      | .withoutUser => .ok ⟨p, .sound (received ++ secondLogin d)⟩ := by
  rw [secondLogin] at h
  simp only [loginWithoutUser, exchange_of_replies h, replies_map_ok]
  rfl

lemma loginWithoutUser_of_no_replies {received : List Command}
    (h : p.replies? received (secondLogin d) = none) :
    ∃ heard cause, heard <+: secondLogin d ∧ cause.IsLoss ∧
      loginWithoutUser ⟨p, .sound received⟩ d = .error ⟨.link cause, received ++ heard⟩ := by
  obtain ⟨cause, hcause, hloss⟩ := replies_of_no_replies h
  obtain ⟨heard, hpre, hheard⟩ := exchange_received ⟨p, .sound received⟩ (secondLogin d)
  refine ⟨heard, cause, hpre, hloss, ?_⟩
  have hheard' : (exchange ⟨p, .sound received⟩ (secondLogin d)).2.link.received =
      received ++ heard := hheard
  rw [secondLogin] at hcause hheard'
  have hreplies : replies (exchange ⟨p, .sound received⟩
      (loginCommands d none)).1 = .error (.link cause) := hcause
  simp only [loginWithoutUser, hreplies, abandon, hheard']

lemma login_of_replies {rs : List Reply} (h : p.replies? [] (firstLogin d) = some rs) :
    (start p).login d = match judge d rs with
      | .failed f => .error ⟨f, firstLogin d⟩
      | .passed => .ok ⟨p, .sound (firstLogin d)⟩
      | .withoutUser => loginWithoutUser ⟨p, .sound (firstLogin d)⟩ d := by
  rw [firstLogin] at h
  simp only [login, start, exchange_of_replies h, replies_map_ok, List.nil_append]
  rfl

lemma login_of_no_replies (h : p.replies? [] (firstLogin d) = none) :
    ∃ heard cause, heard <+: firstLogin d ∧ cause.IsLoss ∧
      (start p).login d = .error ⟨.link cause, heard⟩ := by
  obtain ⟨cause, hcause, hloss⟩ := replies_of_no_replies h
  obtain ⟨heard, hpre, hheard⟩ := exchange_received (start p) (firstLogin d)
  refine ⟨heard, cause, hpre, hloss, ?_⟩
  have hheard' : (exchange (start p) (firstLogin d)).2.link.received = heard := hheard
  rw [firstLogin] at hcause hheard'
  have hreplies : replies (exchange (start p)
      (loginCommands d d.user)).1 = .error (.link cause) := hcause
  simp only [login, hreplies, abandon, hheard']

/-- Every login takes one of the courses. -/
theorem login_course (p : Peer) (d : Dial) :
    ∃ received f?, Login p d received f? ∧ (start p).login d = loggedIn p received f? := by
  cases hreplies : p.replies? [] (firstLogin d) with
  | none =>
    obtain ⟨heard, cause, hheard, hloss, hlogin⟩ := login_of_no_replies hreplies
    exact ⟨heard, some (.link cause), .lost hheard hreplies hloss, hlogin⟩
  | some rs =>
    have hlogin := login_of_replies hreplies
    cases hjudge : judge d rs with
    | failed f =>
      rw [hjudge] at hlogin
      exact ⟨_, some f, .refused hreplies hjudge, hlogin⟩
    | passed =>
      rw [hjudge] at hlogin
      exact ⟨_, none, .passed hreplies hjudge, hlogin⟩
    | withoutUser =>
      rw [hjudge] at hlogin
      cases hreplies' : p.replies? (firstLogin d) (secondLogin d) with
      | none =>
        obtain ⟨heard, cause, hheard, hloss, hagain⟩ := loginWithoutUser_of_no_replies hreplies'
        exact ⟨_, some (.link cause), .lostAgain hreplies hjudge hheard hreplies' hloss,
          hlogin.trans hagain⟩
      | some rs' =>
        have hagain := hlogin.trans (loginWithoutUser_of_replies hreplies')
        cases hjudge' : judge d rs' with
        | failed f =>
          rw [hjudge'] at hagain
          exact ⟨_, some f, .refusedAgain hreplies hjudge hreplies' hjudge', hagain⟩
        | passed =>
          rw [hjudge'] at hagain
          exact ⟨_, none, .passedAgain hreplies hjudge hreplies' (by simp [hjudge']), hagain⟩
        | withoutUser =>
          rw [hjudge'] at hagain
          exact ⟨_, none, .passedAgain hreplies hjudge hreplies' (by simp [hjudge']), hagain⟩

/-- The courses of a handshake: a login that fails, or the check that the peer is alive. -/
inductive Handshake (p : Peer) (d : Dial) : Except Unopened Session → Prop where
  | loginFailed {received : List Command} {f : ConnectFault} (h : Login p d received (some f))
    (hlogin : (start p).login d = .error ⟨f, received⟩) : Handshake p d (.error ⟨f, received⟩)
  | dead {received : List Command} {cause : Refusal} (h : Login p d received none)
    (hlogin : (start p).login d = .ok ⟨p, .sound received⟩)
    (hdead : ∀ r text, (p.turn received .ping).reply? = some r → r.toText ≠ .ok text) :
    Handshake p d (.error ⟨.notAlive cause, received ++ [.ping]⟩)
  | alive {received : List Command} {r : Reply} {text : String} (h : Login p d received none)
    (hlogin : (start p).login d = .ok ⟨p, .sound received⟩)
    (hreply : (p.turn received .ping).reply? = some r) (htext : r.toText = .ok text) :
    Handshake p d (.ok ⟨p, .sound (received ++ [.ping])⟩)

lemma checkAlive_course (received : List Command) :
    (∃ cause, (∀ r text, (p.turn received .ping).reply? = some r → r.toText ≠ .ok text) ∧
        checkAlive ⟨p, .sound received⟩ = .error ⟨.notAlive cause, received ++ [.ping]⟩) ∨
      ∃ r text, (p.turn received .ping).reply? = some r ∧ r.toText = .ok text ∧
        checkAlive ⟨p, .sound received⟩ = .ok ⟨p, .sound (received ++ [.ping])⟩ := by
  cases hreply : (p.turn received .ping).reply? with
  | none =>
    obtain ⟨cause, hcause, _⟩ := Link.send_of_no_reply hreply
    have hreceived : (Link.send p (.sound received) .ping).2.received = received ++ [.ping] := by
      rcases Link.send_received p (.sound received) .ping with ⟨hclosed, _⟩ | hmore
      · cases hclosed
      · exact hmore
    refine Or.inl ⟨cause, by simp, ?_⟩
    simp [checkAlive, exchange, Link.exchange, Link.sendEach, hcause, aliveText, abandon, hreceived]
  | some r =>
    have hreplies : p.replies? received [.ping] = some [r] := by
      simp [Peer.replies?, hreply]
    have hexchange := exchange_of_replies hreplies
    cases htext : r.toText with
    | ok text =>
      refine Or.inr ⟨r, text, rfl, htext, ?_⟩
      simp [checkAlive, hexchange, aliveText, htext]
    | error cause =>
      refine Or.inl ⟨cause, ?_, ?_⟩
      · rintro r' text ⟨⟩
        simp [htext]
      · simp [checkAlive, hexchange, aliveText, htext, abandon]

theorem handshake_course (p : Peer) (d : Dial) : Handshake p d ((start p).handshake d) := by
  obtain ⟨received, f?, hcourse, hlogin⟩ := login_course p d
  cases f? with
  | some f =>
    have hhandshake : (start p).handshake d = .error ⟨f, received⟩ := by
      simp only [handshake, hlogin]
      rfl
    rw [hhandshake]
    exact .loginFailed hcourse hlogin
  | none =>
    have hhandshake : (start p).handshake d = checkAlive ⟨p, .sound received⟩ := by
      simp only [handshake, hlogin]
      rfl
    rw [hhandshake]
    rcases checkAlive_course (p := p) received with
      ⟨cause, hdead, hfault⟩ | ⟨r, text, hreply, htext, halive⟩
    · rw [hfault]
      exact .dead hcourse hlogin hdead
    · rw [halive]
      exact .alive hcourse hlogin hreply htext

/-- Why no login was tried: there is no address, or no peer is met over the transport. -/
inductive Unmet (net : Network) (c : StoreConfig) : ConnectFault → Prop where
  | noAddress {f : AddressFault} (hdial : Address.dial c = .error f) : Unmet net c (.address f)
  | noPeer {d : Dial} {f : TransportFault} (hdial : Address.dial c = .ok d)
    (hpeer : net d.host d.port d.transport = .error f) : Unmet net c (.transport f)

/-- The peer that a configuration leads to, and how it is dialed. -/
structure Met (net : Network) (c : StoreConfig) (d : Dial) (p : Peer) : Prop where
  dial : Address.dial c = .ok d
  peer : net d.host d.port d.transport = .ok p

/-- The courses of a connection: the peer is not met, or there is a handshake. -/
inductive Connection (net : Network) (c : StoreConfig) : Except Unopened Session → Prop where
  | unmet {f : ConnectFault} (h : Unmet net c f) : Connection net c (.error ⟨f, []⟩)
  | shaken {d : Dial} {p : Peer} {result : Except Unopened Session} (hmet : Met net c d p)
    (hresult : Handshake p d result) : Connection net c result

lemma connect_of_met {net : Network} {c : StoreConfig} (hmet : Met net c d p) :
    connect net c = (start p).handshake d := by
  simp only [connect, hmet.dial, hmet.peer]
  rfl

theorem connect_course (net : Network) (c : StoreConfig) : Connection net c (connect net c) := by
  cases hdial : Address.dial c with
  | error f =>
    rw [connect, hdial]
    exact .unmet (.noAddress hdial)
  | ok d =>
    cases hpeer : net d.host d.port d.transport with
    | error f =>
      have hfault : connect net c = .error ⟨.transport f, []⟩ := by
        simp only [connect, hdial, hpeer]
      rw [hfault]
      exact .unmet (.noPeer hdial hpeer)
    | ok p =>
      have hmet : Met net c d p := ⟨hdial, hpeer⟩
      rw [connect_of_met hmet]
      exact .shaken hmet (handshake_course p d)

/-- A connection comes about by a login that passes and a peer that is alive. -/
lemma connect_eq_ok {net : Network} {c : StoreConfig} {s : Session} (hok : connect net c = .ok s) :
    ∃ d received, Met net c d s.peer ∧ Login s.peer d received none ∧
      s.link = .sound (received ++ [.ping]) ∧
      ∃ r text, (s.peer.turn received .ping).reply? = some r ∧ r.toText = .ok text := by
  have hcourse := connect_course net c
  rw [hok] at hcourse
  generalize hresult : Except.ok s = result at hcourse
  cases hcourse with
  | unmet => cases hresult
  | shaken hmet hhandshake =>
    cases hhandshake with
    | loginFailed => cases hresult
    | dead => cases hresult
    | alive hlogin _ hreply htext =>
      obtain rfl := Except.ok.inj hresult
      exact ⟨_, _, hmet, hlogin, rfl, _, _, hreply, htext⟩

/-- Where a login passes, all of its commands have been heard. -/
lemma Login.received_eq {received : List Command} (h : Login p d received none) :
    received = firstLogin d ∨ received = firstLogin d ++ secondLogin d := by
  cases h with
  | passed => exact Or.inl rfl
  | passedAgain => exact Or.inr rfl

/-! ### Logging in with a password -/

/-- What is sent with a login: the choice of the database, and what the client says of itself. -/
def settings (c : StoreConfig) : List Command := selection c.database ++ introduction

/-- A login of the second protocol: the password, if there is one, and the rest. -/
def loginGroup (c : StoreConfig) (user : Option String) : List Command :=
  (c.password.map (Command.auth user)).toList ++ settings c

/-- A command was received, and answered with a reply. -/
def Answered (p : Peer) (received : List Command) (c : Command) (r : Reply) : Prop :=
  ∃ before after, received = before ++ c :: after ∧ (p.turn before c).reply? = some r

/-- A login with the password was accepted. -/
def Authenticated (s : Session) (password : String) : Prop :=
  ∃ user, Answered s.peer s.link.received (.auth user password) .okay

/-- A greeting of the third protocol that holds the password was answered, and not with an error. -/
def Greeted (s : Session) (password : String) : Prop :=
  ∃ user r, Answered s.peer s.link.received (.hello (some (user, password))) r ∧
    ∀ e, r ≠ .error e

/-- An error whose text says somewhere that AUTH has the wrong number of arguments. -/
def Complains (e : ServerError) : Prop :=
  ∃ text, e.detail = some text ∧
    "wrong number of arguments for 'auth' command".toList <:+: text.toList

lemma mentions_iff {phrase cs : List Char} : mentions phrase cs = true ↔ phrase <:+: cs := by
  induction cs with
  | nil => rw [mentions, List.isEmpty_iff, List.infix_nil]
  | cons c cs ih =>
    rw [mentions, Bool.or_eq_true, List.isPrefixOf_iff_prefix, ih, List.infix_cons_iff]

lemma isArityComplaint_iff {e : ServerError} : isArityComplaint e = true ↔ Complains e := by
  rw [isArityComplaint, mentions_iff, Complains]
  cases e.detail with
  | none => simp
  | some text => simp

/-- Both logins with the password were answered with a complaint about the number of arguments. -/
structure MisunderstoodTwice (s : Session) (c : StoreConfig) (password : String) : Prop where
  received : ∃ user, s.link.received =
    (.auth user password :: settings c) ++ (.auth none password :: settings c) ++ [.ping] ∧
      (∃ e, (s.peer.turn [] (.auth user password)).reply? = some (.error e) ∧ Complains e) ∧
      (∃ e, (s.peer.turn (.auth user password :: settings c) (.auth none password)).reply? =
        some (.error e) ∧ Complains e)

section Password

variable {net : Network} {c : StoreConfig} {password : String} {s : Session}

lemma password_of_dial (hdial : Address.dial c = .ok d) : d.password = c.password := by
  obtain ⟨_, _, hyields⟩ := Address.dial_eq_ok hdial
  exact hyields.password

lemma settings_of_dial (hdial : Address.dial c = .ok d) :
    selection d.database ++ introduction = settings c := by
  obtain ⟨_, _, hyields⟩ := Address.dial_eq_ok hdial
  rw [hyields.database, settings]

lemma loginCommands_of_resp2 (hdial : Address.dial c = .ok d) (hprotocol : d.protocol = .resp2)
    (user : Option String) : loginCommands d user = loginGroup c user := by
  rw [loginCommands, settings_of_dial hdial, loginCommand?, hprotocol, loginGroup,
    password_of_dial hdial]

lemma loginCommands_of_resp3 (hdial : Address.dial c = .ok d) (hprotocol : d.protocol = .resp3)
    (user : Option String) : loginCommands d user =
      .hello (c.password.map fun password => (user.getD "default", password)) :: settings c := by
  rw [loginCommands, settings_of_dial hdial, loginCommand?, hprotocol, password_of_dial hdial]
  rfl

lemma loginGroup_of_password (hpassword : c.password = some password) (user : Option String) :
    loginGroup c user = .auth user password :: settings c := by
  rw [loginGroup, hpassword]
  rfl

/-- What is sent with a login is no login. -/
lemma mem_settings {database : UInt32} {cmd : Command}
    (h : cmd ∈ selection database ++ introduction) :
    (∃ database, cmd = .select database) ∨ ∃ item, cmd = .setInfo item := by
  rcases List.mem_append.mp h with hselect | hinfo
  · unfold selection at hselect
    split at hselect
    · cases hselect
    · exact Or.inl ⟨_, List.mem_singleton.mp hselect⟩
  · simp only [introduction, List.mem_cons, List.not_mem_nil, or_false] at hinfo
    rcases hinfo with rfl | rfl <;> exact Or.inr ⟨_, rfl⟩

lemma auth_not_mem_settings {user : Option String} {word : String} :
    Command.auth user word ∉ settings c := by
  intro h
  rcases mem_settings h with ⟨_, heq⟩ | ⟨_, heq⟩ <;> cases heq

lemma hello_not_mem_loginGroup {login : Option (String × String)} {user : Option String} :
    Command.hello login ∉ loginGroup c user := by
  intro h
  rcases List.mem_append.mp h with hauth | hrest
  · obtain ⟨_, _, heq⟩ := Option.map_eq_some_iff.mp (Option.mem_toList.mp hauth)
    cases heq
  · rcases mem_settings hrest with ⟨_, heq⟩ | ⟨_, heq⟩ <;> cases heq

/-! ### Verdicts -/

lemma judgeSelect_ne_withoutUser (database : UInt32) (rs : List Reply) :
    judgeSelect database rs ≠ .withoutUser := by
  unfold judgeSelect
  split
  · split <;> simp
  · simp

lemma judge_of_password (hprotocol : d.protocol = .resp2) (hpassword : d.password = some password)
    (rs : List Reply) : judge d rs = judgeAuth d.database rs := by
  rw [judge, hprotocol, hpassword]

lemma judge_of_resp3 (hprotocol : d.protocol = .resp3) (rs : List Reply) :
    judge d rs = judgeHello d.database rs := by
  rw [judge, hprotocol]

lemma okay_of_passed {database : UInt32} {a : Reply} {as : List Reply}
    (h : judgeAuth database (a :: as) = .passed) : a = .okay := by
  cases a with
  | okay => rfl
  | error e =>
    rw [judgeAuth] at h
    split at h <;> cases h
  | _ => cases h

lemma complaint_of_withoutUser {database : UInt32} {a : Reply} {as : List Reply}
    (h : judgeAuth database (a :: as) = .withoutUser) :
    ∃ e, a = .error e ∧ Complains e := by
  cases a with
  | okay => exact absurd h (judgeSelect_ne_withoutUser database as)
  | error e =>
    rw [judgeAuth] at h
    split at h
    · next harity => exact ⟨e, rfl, isArityComplaint_iff.mp harity⟩
    · cases h
  | _ => cases h

lemma not_error_of_passed {database : UInt32} {a : Reply} {as : List Reply}
    (h : judgeHello database (a :: as) = .passed) (e : ServerError) : a ≠ .error e := by
  rintro rfl
  cases h

/-- A greeting is not repeated. -/
lemma judgeHello_ne_withoutUser (database : UInt32) (rs : List Reply) :
    judgeHello database rs ≠ .withoutUser := by
  unfold judgeHello
  split
  · simp
  · simp
  · exact judgeSelect_ne_withoutUser _ _

/-! ### Where a login stands -/

/-- What is not among the first commands stands behind all of them. -/
lemma split_beyond {x : Command} {before after front rest : List Command}
    (h : before ++ x :: after = front ++ rest) (hx : x ∉ front) :
    ∃ between, before = front ++ between ∧ between ++ x :: after = rest := by
  rcases List.append_eq_append_iff.mp h with ⟨as, hfront, hrest⟩ | ⟨between, hbefore, hrest⟩
  · cases as with
    | nil => exact ⟨[], by simpa using hfront.symm, by simpa using hrest⟩
    | cons a as =>
      obtain ⟨rfl, _⟩ := List.cons.inj hrest
      exact absurd (hfront ▸ List.mem_append_right before List.mem_cons_self) hx
  · exact ⟨between, hbefore, hrest.symm⟩

/-- In one login the AUTH stands at the start. -/
lemma auth_of_one {user user' : Option String} {word : String} {before after : List Command}
    (h : before ++ .auth user' word :: after <+: (.auth user password :: settings c) ++ [.ping]) :
    before = [] ∧ user' = user ∧ word = password := by
  obtain ⟨rest, hrest⟩ := h
  rw [List.append_assoc, List.cons_append] at hrest
  have hne : Command.auth user' word ∉ settings c ++ [.ping] := by
    rw [List.mem_append, not_or]
    exact ⟨auth_not_mem_settings, by simp⟩
  cases before with
  | nil =>
    obtain ⟨hauth, _⟩ := List.cons.inj hrest
    exact ⟨rfl, (Command.auth.inj hauth).1, (Command.auth.inj hauth).2⟩
  | cons b before =>
    have htail : before ++ .auth user' word :: (after ++ rest) = settings c ++ [.ping] :=
      (List.cons.inj hrest).2
    exact absurd (htail ▸ List.mem_append_right before List.mem_cons_self) hne

/-- In two logins it stands at the start of each. -/
lemma auth_of_two {user user' : Option String} {word : String} {before after : List Command}
    (h : before ++ .auth user' word :: after <+:
      (.auth user password :: settings c) ++ ((.auth none password :: settings c) ++ [.ping])) :
    (before = [] ∧ user' = user ∧ word = password) ∨
      (before = .auth user password :: settings c ∧ user' = none ∧ word = password) := by
  obtain ⟨rest, hrest⟩ := h
  rw [List.append_assoc, List.cons_append] at hrest
  cases before with
  | nil =>
    obtain ⟨hauth, _⟩ := List.cons.inj hrest
    exact Or.inl ⟨rfl, (Command.auth.inj hauth).1, (Command.auth.inj hauth).2⟩
  | cons b before =>
    obtain ⟨rfl, htail⟩ := List.cons.inj hrest
    obtain ⟨between, rfl, hbetween⟩ := split_beyond htail auth_not_mem_settings
    obtain ⟨rfl, huser, hword⟩ := auth_of_one ⟨[], (List.append_nil _).trans hbetween⟩
    exact Or.inr ⟨by rw [List.append_nil], huser, hword⟩

/-- A session whose logins were misunderstood twice was never accepted. -/
lemma MisunderstoodTwice.not_authenticated (h : MisunderstoodTwice s c password) :
    ¬Authenticated s password := by
  obtain ⟨user, hreceived, ⟨e, hfirst, _⟩, ⟨e', hsecond, _⟩⟩ := h.received
  rintro ⟨user', before, after, hsplit, hokay⟩
  rw [hreceived, List.append_assoc] at hsplit
  rcases auth_of_two ⟨[], (List.append_nil _).trans hsplit.symm⟩ with
    ⟨rfl, rfl, _⟩ | ⟨rfl, rfl, _⟩
  · rw [hfirst] at hokay
    cases hokay
  · rw [hsecond] at hokay
    cases hokay

/-- It was not greeted either. -/
lemma MisunderstoodTwice.not_greeted (h : MisunderstoodTwice s c password) :
    ¬Greeted s password := by
  obtain ⟨user, hreceived, _⟩ := h.received
  rintro ⟨user', r, ⟨before, after, hsplit, _⟩, _⟩
  have hmem : Command.hello (some (user', password)) ∈ s.link.received := by simp [hsplit]
  rw [hreceived] at hmem
  simp only [List.mem_append, List.mem_cons, List.not_mem_nil, reduceCtorEq, false_or,
    or_false, or_self] at hmem
  rcases mem_settings hmem with ⟨_, heq⟩ | ⟨_, heq⟩ <;> cases heq

/-- In the second protocol a login with a password that passes was accepted, or misunderstood
twice. -/
lemma Login.accepted_or_misunderstood {received : List Command} (h : Login s.peer d received none)
    (hdial : Address.dial c = .ok d) (hprotocol : d.protocol = .resp2)
    (hpassword : c.password = some password) (hlink : s.link = .sound (received ++ [.ping])) :
    Authenticated s password ∨ MisunderstoodTwice s c password := by
  have hfirst : firstLogin d = .auth d.user password :: settings c := by
    rw [firstLogin, loginCommands_of_resp2 hdial hprotocol, loginGroup_of_password hpassword]
  have hsecond : secondLogin d = .auth none password :: settings c := by
    rw [secondLogin, loginCommands_of_resp2 hdial hprotocol, loginGroup_of_password hpassword]
  have hauth := judge_of_password hprotocol ((password_of_dial hdial).trans hpassword)
  have hreceived : s.link.received = received ++ [.ping] := by rw [hlink, Link.sound_received]
  cases h with
  | passed hreplies hjudge =>
    rw [hfirst] at hreplies
    obtain ⟨a, as, rfl, ha, _⟩ := Peer.replies?_cons hreplies
    rw [hauth] at hjudge
    obtain rfl := okay_of_passed hjudge
    refine Or.inl ⟨d.user, [], settings c ++ [.ping], ?_, ha⟩
    rw [hreceived, hfirst, List.nil_append, List.cons_append]
  | passedAgain hreplies hjudge hreplies' hjudge' =>
    rw [hfirst] at hreplies hreplies'
    rw [hsecond] at hreplies'
    obtain ⟨a, as, rfl, ha, _⟩ := Peer.replies?_cons hreplies
    rw [hauth] at hjudge
    obtain ⟨e, rfl, harity⟩ := complaint_of_withoutUser hjudge
    obtain ⟨a', as', rfl, ha', _⟩ := Peer.replies?_cons hreplies'
    simp only [hauth] at hjudge'
    cases hverdict : judgeAuth d.database (a' :: as') with
    | passed =>
      obtain rfl := okay_of_passed hverdict
      refine Or.inl
        ⟨none, .auth d.user password :: settings c, settings c ++ [.ping], ?_, ha'⟩
      rw [hreceived, hfirst, hsecond, List.append_assoc]
      rfl
    | withoutUser =>
      obtain ⟨e', rfl, harity'⟩ := complaint_of_withoutUser hverdict
      refine Or.inr ⟨d.user, ?_, ⟨e, ha, harity⟩, ⟨e', ha', harity'⟩⟩
      rw [hreceived, hfirst, hsecond]
    | failed f => exact absurd hverdict (hjudge' f)

/-- In the third protocol a login with a password that passes was a greeting with it. -/
lemma Login.greeted {received : List Command} (h : Login s.peer d received none)
    (hdial : Address.dial c = .ok d) (hprotocol : d.protocol = .resp3)
    (hpassword : c.password = some password) (hlink : s.link = .sound (received ++ [.ping])) :
    Greeted s password := by
  have hfirst : firstLogin d = .hello (some (d.user.getD "default", password)) :: settings c := by
    rw [firstLogin, loginCommands_of_resp3 hdial hprotocol, hpassword]
    rfl
  cases h with
  | passed hreplies hjudge =>
    rw [hfirst] at hreplies
    obtain ⟨a, as, rfl, ha, _⟩ := Peer.replies?_cons hreplies
    rw [judge_of_resp3 hprotocol] at hjudge
    refine ⟨_, a, ⟨[], settings c ++ [.ping], ?_, ha⟩, not_error_of_passed hjudge⟩
    rw [hlink, Link.sound_received, hfirst, List.nil_append, List.cons_append]
  | passedAgain _ hjudge =>
    rw [judge_of_resp3 hprotocol] at hjudge
    exact absurd hjudge (judgeHello_ne_withoutUser _ _)

/-- In the second protocol no one is greeted. -/
lemma Login.not_greeted {received : List Command} (h : Login s.peer d received none)
    (hdial : Address.dial c = .ok d) (hprotocol : d.protocol = .resp2)
    (hlink : s.link = .sound (received ++ [.ping])) : ¬Greeted s password := by
  rintro ⟨user, r, ⟨before, after, hsplit, _⟩, _⟩
  have hmem : Command.hello (some (user, password)) ∈ received ++ [.ping] := by
    have hreceived : s.link.received = received ++ [.ping] := by rw [hlink, Link.sound_received]
    rw [← hreceived, hsplit]
    simp
  have hgroup : ∀ user', Command.hello (some (user, password)) ∉ loginCommands d user' := by
    intro user'
    rw [loginCommands_of_resp2 hdial hprotocol]
    exact hello_not_mem_loginGroup
  rcases List.mem_append.mp hmem with hlogin | hping
  · rcases h.received_eq with rfl | rfl
    · exact hgroup d.user hlogin
    · rcases List.mem_append.mp hlogin with hfirst | hsecond
      · exact hgroup d.user hfirst
      · exact hgroup none hsecond
  · cases List.mem_singleton.mp hping

end Password

/-- A connection with a password is handed out only if a login with the password was accepted, or if
both logins were answered with a complaint about the number of their arguments; nothing else that a
peer can do leads to one, over any transport. Only a query in the host text makes a client greet its
peer in place of that, and then the greeting holds the password. -/
theorem authenticated_unless_misunderstood_twice (net : Network) (c : StoreConfig)
    (password : String) (hpassword : c.password = some password) :
    (∀ s, connect net c = .ok s →
      (Authenticated s password ∨ Greeted s password ↔ ¬MisunderstoodTwice s c password) ∧
        ('?' ∉ c.host.toList → ¬Greeted s password)) ∧
      ∀ u, connect net c = .error u →
        connectFault c u.fault = .connection c.endpoint u.fault.message := by
  refine ⟨?_, fun _ _ => rfl⟩
  intro s hok
  obtain ⟨d, received, hmet, hlogin, hlink, _⟩ := connect_eq_ok hok
  refine ⟨⟨?_, ?_⟩, ?_⟩
  · rintro (hauthenticated | hgreeted) hnot
    · exact hnot.not_authenticated hauthenticated
    · exact hnot.not_greeted hgreeted
  · intro hnot
    cases hprotocol : d.protocol with
    | resp2 =>
      have hcourse := hlogin.accepted_or_misunderstood hmet.dial hprotocol hpassword hlink
      exact Or.inl (hcourse.resolve_right hnot)
    | resp3 => exact Or.inr (hlogin.greeted hmet.dial hprotocol hpassword hlink)
  · intro hquestion
    exact hlogin.not_greeted hmet.dial (Address.protocol_of_dial hmet.dial hquestion) hlink

/-- A peer that gives one answer to logins and is otherwise obliging. -/
def answeringLogins (answer : String) : Peer :=
  { obliging with auth := fun _ => .answer (Utf8.encode answer) }

def guardedStore (tls : Bool) : StoreConfig := ⟨"127.0.0.1", 6379, some "p", 0, tls⟩

theorem login_accepted_authenticates :
    ∃ s, connect (fun _ _ _ => .ok (answeringLogins "+OK\r\n")) (guardedStore true) = .ok s ∧
      (Authenticated s "p" ∨ Greeted s "p" ↔ ¬MisunderstoodTwice s (guardedStore true) "p") ∧
        ¬Greeted s "p" := by
  have hok : ((connect (fun _ _ _ => .ok (answeringLogins "+OK\r\n"))
      (guardedStore true)).toOption.map fun s => s.link.received) =
        some (.auth none "p" :: (introduction ++ [.ping])) := by decide +kernel
  cases hconnect : connect (fun _ _ _ => .ok (answeringLogins "+OK\r\n")) (guardedStore true) with
  | error u =>
    rw [hconnect] at hok
    cases hok
  | ok s =>
    obtain ⟨hiff, hnot⟩ :=
      (authenticated_unless_misunderstood_twice _ (guardedStore true) "p" rfl).1 s hconnect
    exact ⟨s, rfl, hiff, hnot (by decide)⟩

/-- The answer of a server that takes no user names, given twice. -/
def arityComplaint : String := "-ERR wrong number of arguments for 'auth' command\r\n"

/-- A peer that never accepts a login, but complains about the number of its arguments, is connected
to all the same. -/
theorem complaints_let_pass :
    ∃ s, connect (fun _ _ _ => .ok (answeringLogins arityComplaint)) (guardedStore false) = .ok s ∧
      ¬Authenticated s "p" := by
  have hok : ((connect (fun _ _ _ => .ok (answeringLogins arityComplaint))
      (guardedStore false)).toOption.map fun s => s.link.received) =
        some (.auth none "p" :: (introduction ++ .auth none "p" :: (introduction ++ [.ping]))) := by
    decide +kernel
  cases hconnect : connect (fun _ _ _ => .ok (answeringLogins arityComplaint))
      (guardedStore false) with
  | error u =>
    rw [hconnect] at hok
    cases hok
  | ok s =>
    refine ⟨s, rfl, ?_⟩
    obtain ⟨_, _, hmet, _⟩ := connect_eq_ok hconnect
    have hreceived : s.link.received =
        .auth none "p" :: (introduction ++ .auth none "p" :: (introduction ++ [.ping])) := by
      simpa [hconnect, Except.toOption] using hok
    have hturn : ∀ received, ∃ e, (s.peer.turn received (.auth none "p")).reply? = some (.error e) ∧
        Complains e := by
      intro received
      rw [← Except.ok.inj hmet.peer]
      exact ⟨_, rfl, isArityComplaint_iff.mp (by decide +kernel)⟩
    have hmisunderstood : MisunderstoodTwice s (guardedStore false) "p" :=
      ⟨none, hreceived, hturn _, hturn _⟩
    exact hmisunderstood.not_authenticated

end Session

end Backlog.Redis
