import Backlog.Proofs.Authority
import Backlog.Proofs.Utf8
import Backlog.Redis.Session

/-!
# What is dialed

A host text that a URL can hold whole is dialed as it is configured. What the transport, the
password and the database are is told by the configuration alone; but a host text in which an at
sign, a question mark, a number sign or an unprintable character stands can be accepted and then
dialed as another address, or under a user name.
-/

namespace Backlog.Redis

/-- A host is the configured text, or the address that an IPv6 literal in brackets spells. The
address has many spellings, and whoever dials writes it in one of them, which need not be the
configured one. -/
inductive Host.Keeps : Host → List Char → Prop where
  | name (cs : List Char) : Keeps (.name (String.ofList cs)) cs
  | literal {inner : List Char} {pieces : List Nat} (hread : Ipv6.read? inner = some pieces) :
    Keeps (.ipv6 pieces) ('[' :: (inner ++ [']']))

/-- A dial as the configuration names it: no one is logged in but with the configured password. -/
structure Dial.Follows (d : Dial) (c : StoreConfig) : Prop where
  host : d.host.Keeps c.host.toList
  port : d.port = c.port
  transport : d.tls = true ∧ d.verified = true ↔ c.tls = true
  user : d.user = none
  password : d.password = c.password
  database : d.database = c.database

lemma AddressFault.message_of_ne_badProtocol {f : AddressFault}
    (h : ∀ value, f ≠ .badProtocol value) :
    f.message = "invalid address: " ++ f.reason ++ "- InvalidClientConfig" := by
  cases f with
  | badProtocol value => exact absurd rfl (h value)
  | _ => decide

/-- A character that stands for itself in the host of a URL. -/
def StandsForItself (c : Char) : Prop :=
  32 < c.toNat ∧ c.toNat < 127 ∧
    c ∉ ['#', '/', ':', '<', '>', '?', '@', '[', '\\', ']', '^', '|']

instance : DecidablePred StandsForItself := fun _ => inferInstanceAs (Decidable (_ ∧ _ ∧ _))

/-- A host text that a URL can hold whole. -/
inductive Whole : List Char → Prop where
  | name {cs : List Char} (hne : cs ≠ []) (h : ∀ c ∈ cs, StandsForItself c) : Whole cs
  | literal {inner : List Char} {pieces : List Nat} (hread : Ipv6.read? inner = some pieces) :
    Whole ('[' :: (inner ++ [']']))

/-- A character that sets off a user name, cuts an address short, or does not stand as it is. -/
def Loose (c : Char) : Prop := c = '@' ∨ c = '?' ∨ c = '#' ∨ c.toNat < 32 ∨ 127 ≤ c.toNat

namespace Address

/-- The text that is read as an address. -/
def urlText (c : StoreConfig) : List Char := c.endpoint.toList.filter fun ch => !isIgnored ch

/-- The host in that text. -/
def hostText (c : StoreConfig) : List Char := c.host.toList.filter fun ch => !isIgnored ch

lemma ends_port (port : UInt16) : Ends (':' :: Numeral.write port.toNat) port.toNat := by
  have hdigits : ∀ c ∈ Numeral.write port.toNat, c.isDigit = true :=
    fun _ h => Numeral.isDigit_of_mem_write h
  refine ⟨_, rfl, Numeral.write_ne_nil _, hdigits, ?_⟩
  rw [Numeral.scan_eq_ok_iff (Nat.zero_le _)]
  exact ⟨hdigits, Nat.ofDigitChars_ten_toDigits, Nat.le_of_lt_succ port.toNat_lt⟩

lemma urlText_eq (c : StoreConfig) :
    urlText c = hostText c ++ ':' :: Numeral.write c.port.toNat := by
  have htail : (':' :: Numeral.write c.port.toNat).filter (fun ch => !isIgnored ch) =
      ':' :: Numeral.write c.port.toNat := by
    rw [List.filter_eq_self]
    intro ch hch
    rcases List.mem_cons.mp hch with rfl | hdigit
    · rfl
    · have hd := Numeral.isDigit_of_mem_write hdigit
      have : ch ≠ '\t' ∧ ch ≠ '\n' ∧ ch ≠ '\r' := by
        refine ⟨?_, ?_, ?_⟩ <;> rintro rfl <;> cases hd
      simp [isIgnored, this]
  have htext : c.endpoint.toList = c.host.toList ++ ':' :: Numeral.write c.port.toNat := by
    simp [StoreConfig.endpoint, Numeral.text]
  rw [urlText, htext, List.filter_append, htail, hostText]

lemma hostText_eq {c : StoreConfig} (h : ∀ ch ∈ c.host.toList, 32 ≤ ch.toNat) :
    hostText c = c.host.toList := by
  rw [hostText, List.filter_eq_self]
  intro ch hch
  have hle := h ch hch
  have : ch ≠ '\t' ∧ ch ≠ '\n' ∧ ch ≠ '\r' := by
    refine ⟨?_, ?_, ?_⟩ <;> rintro rfl <;> exact absurd hle (by decide)
  simp [isIgnored, this]

lemma parts_eq_ok {cs : List Char} {p : Parts} (hok : parts cs = .ok p) :
    host? (splitHost false (splitUserInfo cs).2).1 = .ok p.host ∧
      port? (splitHost false (splitUserInfo cs).2).2 = .ok (p.port, p.rest) ∧
      p.user = ((splitUserInfo cs).1.getD []).takeWhile (· != ':') := by
  unfold parts at hok
  simp only [bind, Except.bind, pure, Except.pure, throw, throwThe, MonadExceptOf.throw] at hok
  split at hok
  · cases hok
  · split at hok
    · cases hok
    · next host hhost =>
      split at hok
      · cases hok
      · split at hok
        · cases hok
        · next port hport =>
          split at hok
          · cases hok
          · obtain rfl := Except.ok.inj hok
            exact ⟨hhost, hport, rfl⟩

/-- How an accepted dial comes from the parts of its address. -/
structure Yields (p : Parts) (c : StoreConfig) (d : Dial) : Prop where
  host : p.host = some d.host
  fragment : c.tls = true → (fragment? p.rest).any (· != "insecure".toList) = false
  path : pathFits (p.rest.takeWhile fun ch => ch != '?' && ch != '#') = true
  user : p.user = [] → d.user = none
  port : d.port = UInt16.ofNat (p.port.getD defaultPort)
  tls : d.tls = c.tls
  verified : d.verified = (fragment? p.rest).isNone
  password : d.password = c.password
  database : d.database = c.database
  protocol : protocol? (query p.rest) = .ok d.protocol

lemma dial_eq_ok {c : StoreConfig} {d : Dial} (hok : dial c = .ok d) :
    ∃ p, parts (urlText c) = .ok p ∧ Yields p c d := by
  unfold dial at hok
  simp only [bind, Except.bind, pure, Except.pure, throw, throwThe, MonadExceptOf.throw] at hok
  split at hok
  · cases hok
  next p hp =>
  refine ⟨p, hp, ?_⟩
  split at hok
  case h_2 => cases hok
  next host hhost =>
  split at hok
  · cases hok
  next hfragment =>
  have hfragment' : c.tls = true → (fragment? p.rest).any (· != "insecure".toList) = false := by
    intro htls
    rw [Bool.eq_false_iff]
    exact fun h => hfragment ⟨htls, h⟩
  split at hok
  · cases hok
  next hpath =>
  have hpath' : pathFits (p.rest.takeWhile fun ch => ch != '?' && ch != '#') = true := by
    simpa using hpath
  split at hok
  · next huser =>
    split at hok
    · cases hok
    · split at hok
      · cases hok
      · next hprotocol =>
        obtain rfl := Except.ok.inj hok
        exact ⟨hhost, hfragment', hpath', fun _ => rfl, rfl, rfl, rfl, rfl, rfl, hprotocol⟩
  · next huser =>
    split at hok
    · split at hok
      · cases hok
      · split at hok
        · cases hok
        · next hprotocol =>
          obtain rfl := Except.ok.inj hok
          exact ⟨hhost, hfragment', hpath', fun h => absurd h huser, rfl, rfl, rfl, rfl, rfl,
            hprotocol⟩
    · cases hok

lemma host?_error {cs : List Char} {f : AddressFault} (h : host? cs = .error f) :
    f = .unreadable := by
  unfold host? at h
  split at h
  · cases h
  · split at h
    · split at h
      · cases h
      · exact (Except.error.inj h).symm
    · exact (Except.error.inj h).symm
  · split at h
    · exact (Except.error.inj h).symm
    · cases h

lemma port?_error {cs : List Char} {f : AddressFault} (h : port? cs = .error f) :
    f = .unreadable := by
  unfold port? at h
  split at h
  · dsimp only at h
    split at h
    · exact (Except.error.inj h).symm
    · split at h
      · cases h
      · split at h
        · cases h
        · exact (Except.error.inj h).symm
  · cases h

lemma parts_error {cs : List Char} {f : AddressFault} (h : parts cs = .error f) :
    f = .unreadable := by
  unfold parts at h
  simp only [bind, Except.bind, pure, Except.pure, throw, throwThe, MonadExceptOf.throw] at h
  split at h
  · exact (Except.error.inj h).symm
  · split at h
    · next hhost =>
      obtain rfl := Except.error.inj h
      exact host?_error hhost
    · split at h
      · exact (Except.error.inj h).symm
      · split at h
        · next hport =>
          obtain rfl := Except.error.inj h
          exact port?_error hport
        · split at h
          · exact (Except.error.inj h).symm
          · cases h

/-- Only the query asks for a protocol. -/
lemma protocol_of_badProtocol {c : StoreConfig} {value : String}
    (h : dial c = .error (.badProtocol value)) : ∃ p, parts (urlText c) = .ok p ∧
      protocol? (query p.rest) = .error (.badProtocol value) := by
  unfold dial at h
  simp only [bind, Except.bind, pure, Except.pure, throw, throwThe, MonadExceptOf.throw] at h
  split at h
  · next hparts =>
    obtain rfl := Except.error.inj h
    cases parts_error hparts
  next p hp =>
  refine ⟨p, hp, ?_⟩
  split at h
  case h_2 => cases h
  split at h
  · cases h
  split at h
  · cases h
  split at h
  · split at h
    · cases h
    · split at h
      · next hprotocol =>
        obtain rfl := Except.error.inj h
        exact hprotocol
      · cases h
  · split at h
    · split at h
      · cases h
      · split at h
        · next hprotocol =>
          obtain rfl := Except.error.inj h
          exact hprotocol
        · cases h
    · cases h

/-! ### What an accepted address says -/

variable {c : StoreConfig} {d : Dial} {p : Parts}

lemma rest_suffix {cs : List Char} (hok : parts cs = .ok p) : p.rest <:+ cs := by
  obtain ⟨_, hport, _⟩ := parts_eq_ok hok
  have hinfo : (splitUserInfo cs).2 <:+ cs := by
    rcases splitUserInfo_cut cs with h | ⟨info, rest, h, hcs⟩
    · rw [h]
    · rw [h, hcs]
      exact (List.suffix_cons '@' rest).trans (List.suffix_append info _)
  have hhost : (splitHost false (splitUserInfo cs).2).2 <:+ (splitUserInfo cs).2 := by
    conv_rhs => rw [← splitHost_append false (splitUserInfo cs).2]
    exact List.suffix_append _ _
  rcases port?_eq_ok hport with ⟨_, hrest⟩ | ⟨rest, hcut, hrest, _⟩
  · rw [hrest]
    exact hhost.trans hinfo
  · rw [hcut] at hhost
    rw [hrest]
    exact (List.dropWhile_suffix _).trans ((List.suffix_cons ':' rest).trans (hhost.trans hinfo))

lemma fragment?_append {before tail fragment : List Char} (htail : '#' ∉ tail)
    (h : fragment? (before ++ tail) = some fragment) : ∃ front, fragment = front ++ tail := by
  have hnone : tail.dropWhile (· != '#') = [] := by
    rw [List.dropWhile_eq_nil_iff]
    intro ch hch
    simpa using fun heq : ch = '#' => htail (heq ▸ hch)
  rw [fragment?, List.dropWhile_append] at h
  cases hbefore : before.dropWhile (· != '#') with
  | nil =>
    rw [hbefore, List.isEmpty_nil, if_pos rfl, hnone] at h
    cases h
  | cons ch front =>
    rw [hbefore, List.isEmpty_cons, if_neg (by decide)] at h
    exact ⟨front, (Option.some.inj h).symm⟩

/-- A fragment ends with the port, so none can give up the check of the peer's certificate. -/
lemma fragment?_ne_insecure (hparts : parts (urlText c) = .ok p) :
    fragment? p.rest ≠ some "insecure".toList := by
  intro h
  have htail := ends_port c.port
  have hmem : '#' ∈ p.rest := by
    rw [fragment?] at h
    split at h
    · cases h
    · next ch fragment hdrop =>
      have hhead := List.head?_dropWhile_not (· != '#') p.rest
      rw [hdrop] at hhead
      obtain rfl : ch = '#' := by simpa using hhead
      exact (List.dropWhile_suffix _).subset (hdrop ▸ List.mem_cons_self)
  obtain ⟨before, hbefore⟩ :=
    htail.suffix (urlText_eq c ▸ rest_suffix hparts) hmem (by decide) (by decide)
  rw [hbefore] at h
  obtain ⟨front, hfront⟩ := fragment?_append (htail.not_mem (by decide) (by decide)) h
  have : ':' ∈ "insecure".toList := hfront ▸ List.mem_append_right front htail.colon_mem
  simp at this

lemma transport_of_dial (hok : dial c = .ok d) :
    d.tls = true ∧ d.verified = true ↔ c.tls = true := by
  obtain ⟨p, hparts, hyields⟩ := dial_eq_ok hok
  rw [hyields.tls]
  refine ⟨And.left, fun htls => ⟨htls, ?_⟩⟩
  rw [hyields.verified]
  cases hfragment : fragment? p.rest with
  | none => rfl
  | some fragment =>
    have hinsecure := hyields.fragment htls
    rw [hfragment] at hinsecure
    obtain rfl : fragment = "insecure".toList := by simpa using hinsecure
    exact absurd hfragment (fragment?_ne_insecure hparts)

lemma user_of_dial (hok : dial c = .ok d) (hat : '@' ∉ c.host.toList) : d.user = none := by
  obtain ⟨p, hparts, hyields⟩ := dial_eq_ok hok
  have hurl : '@' ∉ urlText c := by
    rw [urlText_eq, List.mem_append, not_or]
    exact ⟨fun h => hat (List.mem_of_mem_filter h),
      (ends_port c.port).not_mem (by decide) (by decide)⟩
  apply hyields.user
  rw [(parts_eq_ok hparts).2.2, splitUserInfo_of_not_mem hurl]
  rfl

lemma protocol?_of_unasked {cs : List Char} (h : '?' ∉ cs) : protocol? (query cs) = .ok .resp2 := by
  have hnone : (cs.takeWhile (· != '#')).dropWhile (· != '?') = [] := by
    rw [List.dropWhile_eq_nil_iff]
    intro ch hch
    have hmem := (List.takeWhile_prefix (· != '#')).subset hch
    simpa using fun heq : ch = '?' => h (heq ▸ hmem)
  rw [query, hnone]
  rfl

/-- A question mark in an address comes from the host text. -/
lemma unasked_of_parts (hparts : parts (urlText c) = .ok p) (h : '?' ∉ c.host.toList) :
    '?' ∉ p.rest := by
  intro hmem
  have hurl := (rest_suffix hparts).subset hmem
  rw [urlText_eq, List.mem_append] at hurl
  rcases hurl with hhost | hport
  · exact h (List.mem_of_mem_filter hhost)
  · exact (ends_port c.port).not_mem (by decide) (by decide) hport

/-- Without a question mark the second protocol is spoken. -/
lemma protocol_of_dial (hok : dial c = .ok d) (h : '?' ∉ c.host.toList) : d.protocol = .resp2 := by
  obtain ⟨p, hparts, hyields⟩ := dial_eq_ok hok
  have hprotocol := protocol?_of_unasked (unasked_of_parts hparts h)
  rw [hyields.protocol] at hprotocol
  exact Except.ok.inj hprotocol

lemma ne_badProtocol_of_dial {f : AddressFault} (herror : dial c = .error f)
    (h : '?' ∉ c.host.toList) (value : String) : f ≠ .badProtocol value := by
  rintro rfl
  obtain ⟨p, hparts, hprotocol⟩ := protocol_of_badProtocol herror
  rw [protocol?_of_unasked (unasked_of_parts hparts h)] at hprotocol
  cases hprotocol

/-- What follows the user information still ends with the port. -/
lemma splitUserInfo_front (c : StoreConfig) : ∃ front,
    (splitUserInfo (urlText c)).2 = front ++ ':' :: Numeral.write c.port.toNat ∧
      ∀ ch ∈ front, ch ∈ urlText c := by
  have htail := ends_port c.port
  rcases splitUserInfo_cut (urlText c) with h | ⟨info, rest, h, hcut⟩
  · refine ⟨hostText c, by rw [h, urlText_eq], ?_⟩
    intro ch hch
    rw [urlText_eq]
    exact List.mem_append_left _ hch
  · have hsuffix : ('@' :: rest) <:+ hostText c ++ ':' :: Numeral.write c.port.toNat := by
      rw [← urlText_eq, hcut]
      exact List.suffix_append info _
    obtain ⟨before, hbefore⟩ := htail.suffix hsuffix List.mem_cons_self (by decide) (by decide)
    cases before with
    | nil => cases (List.cons.inj hbefore).1
    | cons ch front =>
      have hrest := (List.cons.inj hbefore).2
      refine ⟨front, by rw [h]; exact hrest, ?_⟩
      intro ch' hch'
      rw [hcut, hrest]
      simp [hch']

/-- Unless the port is cut off, it is dialed, and the host is what stands behind the user
information. -/
lemma host_and_port_of_dial (hok : dial c = .ok d)
    (hcut : ∀ ch ∈ c.host.toList, ch ≠ '?' ∧ ch ≠ '#') : ∃ front,
    (splitUserInfo (urlText c)).2 = front ++ ':' :: Numeral.write c.port.toNat ∧
      host? front = .ok (some d.host) ∧ d.port = c.port := by
  obtain ⟨p, hparts, hyields⟩ := dial_eq_ok hok
  obtain ⟨hhost, hport, _⟩ := parts_eq_ok hparts
  obtain ⟨front, hfront, hmem⟩ := splitUserInfo_front c
  have htail := ends_port c.port
  have hplain : ∀ ch ∈ front, ch ≠ '?' ∧ ch ≠ '#' := by
    intro ch hch
    have hurl := hmem ch hch
    rw [urlText_eq, List.mem_append] at hurl
    rcases hurl with hin | hin
    · exact hcut ch (List.mem_of_mem_filter hin)
    · constructor <;> rintro rfl <;>
        exact htail.not_mem (by decide) (by decide) hin
  rw [hfront] at hhost hport
  rw [hyields.host] at hhost
  obtain ⟨hhost', hport'⟩ := htail.host_and_port hplain hhost hport hyields.path
  refine ⟨front, hfront, hhost', ?_⟩
  rw [hyields.port, hport', Option.getD_some, UInt16.ofNat_toNat]

/-! ### Hosts that are kept -/

lemma isForbidden_of_standsForItself {ch : Char} (h : StandsForItself ch) :
    isForbidden ch = false := by
  obtain ⟨hlow, _, hlist⟩ := h
  have hcontrol : ch ∉ ['\x00', '\t', '\n', '\r', ' '] := by
    intro hmem
    have : ∀ c ∈ ['\x00', '\t', '\n', '\r', ' '], c.toNat ≤ 32 := by simp
    have := this ch hmem
    omega
  simp only [List.mem_cons, not_or] at hlist hcontrol
  simp [isForbidden, hlist, hcontrol]

lemma standsForItself_of_not_forbidden {ch : Char} (h : isForbidden ch = false)
    (hlow : 32 ≤ ch.toNat) (hhigh : ch.toNat < 127) : StandsForItself ch := by
  have hmem : ch ∉ ['\x00', '\t', '\n', '\r', ' ', '#', '/', ':', '<', '>', '?', '@', '[', '\\',
      ']', '^', '|'] := by
    simpa [isForbidden] using h
  simp only [List.mem_cons, not_or] at hmem
  have hspace : ch.toNat ≠ 32 := by
    intro heq
    have : ch = ' ' := Char.toNat_inj.mp heq
    exact hmem.2.2.2.2.1 this
  refine ⟨by omega, hhigh, ?_⟩
  simp [hmem]

lemma standsForItself_hexUpper (n : Nat) (h : n < 16) : StandsForItself (hexUpper n) := by
  have : ∀ n < 16, StandsForItself (hexUpper n) := by decide
  exact this n h

lemma standsForItself_of_percentEncoded {ch : Char} (h : isForbidden ch = false) :
    ∀ e ∈ percentEncoded ch, StandsForItself e := by
  intro e he
  unfold percentEncoded at he
  split at he
  · next hprintable =>
    obtain rfl := List.mem_singleton.mp he
    exact standsForItself_of_not_forbidden h hprintable.1 hprintable.2
  · obtain ⟨b, _, hb⟩ := List.mem_flatMap.mp he
    have hbyte := b.toNat_lt
    simp only [List.mem_cons, List.not_mem_nil, or_false] at hb
    rcases hb with rfl | rfl | rfl
    · decide
    · exact standsForItself_hexUpper _ (by omega)
    · exact standsForItself_hexUpper _ (by omega)

lemma percentEncoded_ne_nil (ch : Char) : percentEncoded ch ≠ [] := by
  unfold percentEncoded
  split
  · simp
  · intro hnil
    rw [List.flatMap_eq_nil_iff] at hnil
    have hbytes := String.utf8EncodeChar_ne_nil (c := ch)
    obtain ⟨b, bs, hcons⟩ := List.exists_cons_of_ne_nil hbytes
    have := hnil b (hcons ▸ List.mem_cons_self)
    cases this

/-- An accepted host that is the configured text shows that the text is whole. -/
lemma whole_of_keeps {cs text : List Char} {h : Host} (hok : host? text = .ok (some h))
    (hkeeps : h.Keeps cs) : Whole cs := by
  rcases host?_eq_ok hok with ⟨_, pieces, _, _, rfl⟩ | ⟨hne, hplain, rfl⟩
  · cases hkeeps with
    | literal hread => exact .literal hread
  · generalize hname : Host.name (String.ofList (text.flatMap percentEncoded)) = h at hkeeps
    cases hkeeps with
    | literal => cases hname
    | name =>
      obtain rfl : text.flatMap percentEncoded = cs := by
        simpa using congrArg String.toList (Host.name.inj hname)
      refine .name ?_ ?_
      · obtain ⟨ch, rest, rfl⟩ := List.exists_cons_of_ne_nil hne
        simp [percentEncoded_ne_nil]
      · intro e he
        obtain ⟨ch, hch, hech⟩ := List.mem_flatMap.mp he
        exact standsForItself_of_percentEncoded (hplain ch hch) e hech

lemma host?_of_printable {cs : List Char} {h : Host} (hok : host? cs = .ok (some h))
    (hprintable : ∀ ch ∈ cs, 32 ≤ ch.toNat ∧ ch.toNat < 127) : h.Keeps cs := by
  rcases host?_eq_ok hok with ⟨inner, pieces, rfl, hread, rfl⟩ | ⟨_, _, rfl⟩
  · exact .literal hread
  · have hself : cs.flatMap percentEncoded = cs := by
      conv_rhs => rw [← List.flatMap_singleton' cs]
      apply List.flatMap_congr
      intro ch hch
      rw [percentEncoded, if_pos (hprintable ch hch)]
    rw [hself]
    exact .name cs

/-- The characters of a literal are digits and letters, a colon or a point. -/
lemma literal_range {ch : Char} (h : Ipv6.OfLiteral ch) :
    (46 = ch.toNat ∨ 48 ≤ ch.toNat ∧ ch.toNat ≤ 58) ∨ (65 ≤ ch.toNat ∧ ch.toNat ≤ 70) ∨
      (97 ≤ ch.toNat ∧ ch.toNat ≤ 102) := by
  rcases h with h | rfl | rfl
  · unfold hexDigit? at h
    split at h
    · next hdigit =>
      have : 48 ≤ ch.toNat ∧ ch.toNat ≤ 57 := by
        simpa [Char.isDigit, UInt32.le_iff_toNat_le] using hdigit
      omega
    · split at h
      · next hlower => exact Or.inr (Or.inr hlower)
      · split at h
        · next hupper => exact Or.inr (Or.inl hupper)
        · cases h
  · decide
  · decide

/-- Nothing in a literal sets off another part of an address. -/
lemma literal_chars {ch : Char} (h : Ipv6.OfLiteral ch) :
    32 ≤ ch.toNat ∧ ch ≠ '@' ∧ ch ≠ ']' ∧ isDelimiter ch = false := by
  have hrange := literal_range h
  refine ⟨by omega, ?_, ?_, ?_⟩
  · rintro rfl
    exact absurd hrange (by decide)
  · rintro rfl
    exact absurd hrange (by decide)
  · rw [Bool.eq_false_iff]
    intro hdelimiter
    have : ch = '/' ∨ ch = '?' ∨ ch = '#' := by simpa [isDelimiter, or_assoc] using hdelimiter
    rcases this with rfl | rfl | rfl <;> exact absurd hrange (by decide)

/-- A whole host text and what it is cut into in front of a port. -/
lemma whole_cut {cs : List Char} (h : Whole cs) :
    (∀ ch ∈ cs, 32 ≤ ch.toNat) ∧ '@' ∉ cs ∧
      (∀ rest, splitHost false (cs ++ ':' :: rest) = (cs, ':' :: rest)) ∧
      ∃ host, host? cs = .ok (some host) ∧ host.Keeps cs := by
  cases h with
  | name hne hself =>
    have hplain : ∀ ch ∈ cs, isForbidden ch = false :=
      fun ch hch => isForbidden_of_standsForItself (hself ch hch)
    have hprintable : ∀ ch ∈ cs, 32 ≤ ch.toNat ∧ ch.toNat < 127 :=
      fun ch hch => ⟨(hself ch hch).1.le, (hself ch hch).2.1⟩
    have hany : cs.any isForbidden = false := by
      rw [List.any_eq_false]
      intro ch hch
      simp [hplain ch hch]
    have hok : host? cs = .ok (some (.name (String.ofList (cs.flatMap percentEncoded)))) := by
      obtain ⟨ch, rest, rfl⟩ := List.exists_cons_of_ne_nil hne
      unfold host?
      split
      · next heq => cases heq
      · next rest' heq =>
        have := hplain '[' (heq ▸ List.mem_cons_self)
        cases this
      · rw [hany]
        rfl
    refine ⟨fun ch hch => (hprintable ch hch).1, ?_, splitHost_name hplain, _, hok,
      host?_of_printable hok hprintable⟩
    intro hat
    have := hplain '@' hat
    cases this
  | @literal inner pieces hread =>
    have hchars := fun ch hch => literal_chars (Ipv6.ofLiteral_of_read hread ch hch)
    refine ⟨?_, ?_, splitHost_literal fun ch hch => ⟨(hchars ch hch).2.2.2, (hchars ch hch).2.2.1⟩,
      _, host?_literal hread, .literal hread⟩
    · intro ch hch
      simp only [List.mem_cons, List.mem_append, List.not_mem_nil, or_false] at hch
      rcases hch with rfl | hch | rfl
      · decide
      · exact (hchars ch hch).1
      · decide
    · intro hat
      simp only [List.mem_cons, List.mem_append, List.not_mem_nil, or_false] at hat
      rcases hat with heq | hat | heq
      · cases heq
      · exact (hchars '@' hat).2.1 rfl
      · cases heq

/-- A whole host text is dialed as it is configured. -/
theorem dial_of_whole (h : Whole c.host.toList) : ∃ d, dial c = .ok d ∧ d.Follows c := by
  obtain ⟨hlow, hat, hsplit, host, hhost, hkeeps⟩ := whole_cut h
  have htail := ends_port c.port
  obtain ⟨ds, hds, hne, hdigits, hscan⟩ := htail.form
  have hurl : urlText c = c.host.toList ++ ':' :: ds := by rw [urlText_eq, hostText_eq hlow, hds]
  have hinfo : splitUserInfo (urlText c) = (none, urlText c) := by
    apply splitUserInfo_of_not_mem
    rw [hurl, ← hds, List.mem_append, not_or]
    exact ⟨hat, htail.not_mem (by decide) (by decide)⟩
  have hport := port?_of_digits hdigits hne hscan
  have hparts : parts (urlText c) = .ok ⟨[], [], some host, some c.port.toNat, []⟩ := by
    simp only [parts, hinfo]
    simp [hurl, hsplit, hhost, hport, bind, Except.bind, pure, Except.pure]
  have hpath : pathFits [] = true := by decide
  have hpassword : (decoded? []).isNone = false := by decide
  have hprotocol : protocol? (query []) = .ok .resp2 := protocol?_of_unasked List.not_mem_nil
  have hdial : dial c =
      .ok ⟨host, c.port, c.tls, true, none, c.password, c.database, .resp2⟩ := by
    have hparts' : parts (c.endpoint.toList.filter fun ch => !isIgnored ch) = _ := hparts
    simp only [dial, hparts']
    simp [fragment?, hpath, hpassword, hprotocol, bind, Except.bind, pure, Except.pure]
  exact ⟨_, hdial, hkeeps, rfl, by simp, rfl, rfl, rfl⟩

/-- A text that is accepted and in which nothing is loose is whole. -/
lemma whole_of_dial (hok : dial c = .ok d) (hloose : ∀ ch ∈ c.host.toList, ¬Loose ch) :
    Whole c.host.toList := by
  simp only [Loose, not_or, not_lt, not_le] at hloose
  obtain ⟨front, hfront, hhost, _⟩ :=
    host_and_port_of_dial hok fun ch hch => ⟨(hloose ch hch).2.1, (hloose ch hch).2.2.1⟩
  have hurl : urlText c = c.host.toList ++ ':' :: Numeral.write c.port.toNat := by
    rw [urlText_eq, hostText_eq fun ch hch => (hloose ch hch).2.2.2.1]
  have hat : '@' ∉ urlText c := by
    rw [hurl, List.mem_append, not_or]
    exact ⟨fun h => (hloose '@' h).1 rfl, (ends_port c.port).not_mem (by decide) (by decide)⟩
  rw [splitUserInfo_of_not_mem hat, hurl] at hfront
  obtain rfl := List.append_cancel_right hfront
  exact whole_of_keeps hhost (host?_of_printable hhost fun ch hch => (hloose ch hch).2.2.2)

end Address

/-- What an accepted dial has in common with the configuration, and where it can differ from it. -/
structure Dial.Accepted (d : Dial) (c : StoreConfig) : Prop where
  /-- The host tells all: if it is the configured one, so is everything else. -/
  follows_iff : d.Follows c ↔ Whole c.host.toList
  host_iff : d.host.Keeps c.host.toList ↔ Whole c.host.toList
  transport : d.tls = true ∧ d.verified = true ↔ c.tls = true
  password : d.password = c.password
  database : d.database = c.database
  user : '@' ∉ c.host.toList → d.user = none
  port : '?' ∉ c.host.toList → '#' ∉ c.host.toList → d.port = c.port

/-- Nothing is sent, and the fault is one of connecting. -/
def Refused (c : StoreConfig) : Prop :=
  ∃ f, ∀ net, Session.connect net c = .error ⟨.address f, []⟩ ∧
    connectFault c (.address f) = .connection c.endpoint ("invalid address: " ++ f.reason ++
      "- InvalidClientConfig")

open Address in
/-- The configured host, port and transport are dialed, with no user name, if and only if the host
text is one that a URL can hold whole. A text that is not is refused, unless one of its characters
is loose; then it can be accepted, and another host is dialed. -/
theorem dial_follows_configuration (c : StoreConfig) :
    (∀ d, dial c = .ok d → d.Accepted c) ∧
      (Whole c.host.toList → ∃ d, dial c = .ok d) ∧
      (¬Whole c.host.toList → (∀ ch ∈ c.host.toList, ¬Loose ch) → Refused c) := by
  refine ⟨?_, ?_, ?_⟩
  · intro d hok
    obtain ⟨p, hparts, hyields⟩ := dial_eq_ok hok
    have hwhole : d.host.Keeps c.host.toList → Whole c.host.toList := by
      obtain ⟨hhost, _⟩ := parts_eq_ok hparts
      rw [hyields.host] at hhost
      exact whole_of_keeps hhost
    have hfollows : Whole c.host.toList → d.Follows c := by
      intro h
      obtain ⟨d', hok', hd'⟩ := dial_of_whole h
      rw [hok] at hok'
      exact Except.ok.inj hok' ▸ hd'
    refine ⟨⟨fun h => hwhole h.host, hfollows⟩, ⟨hwhole, fun h => (hfollows h).host⟩,
      transport_of_dial hok, hyields.password, hyields.database, user_of_dial hok, ?_⟩
    intro hquestion hnumber
    have hcut : ∀ ch ∈ c.host.toList, ch ≠ '?' ∧ ch ≠ '#' := by
      intro ch hch
      exact ⟨fun heq => hquestion (heq ▸ hch), fun heq => hnumber (heq ▸ hch)⟩
    obtain ⟨_, _, _, hport⟩ := host_and_port_of_dial hok hcut
    exact hport
  · intro h
    obtain ⟨d, hok, _⟩ := dial_of_whole h
    exact ⟨d, hok⟩
  · intro hnot hloose
    cases hok : dial c with
    | ok d => exact absurd (whole_of_dial hok hloose) hnot
    | error f =>
      have hquestion : '?' ∉ c.host.toList := fun h => hloose '?' h (Or.inr (Or.inl rfl))
      refine ⟨f, fun net => ⟨?_, ?_⟩⟩
      · rw [Session.connect, hok]
      · rw [connectFault, ConnectFault.message,
          AddressFault.message_of_ne_badProtocol (ne_badProtocol_of_dial hok hquestion)]

/-- An at sign in the host text logs in the user before it on the host behind it. -/
theorem user_in_host_text_dialed :
    ∃ d, Address.dial ⟨"user@127.0.0.1", 6379, some "p", 0, false⟩ = .ok d ∧
      d.host = .name "127.0.0.1" ∧ d.user = some "user" ∧
      ¬d.Follows ⟨"user@127.0.0.1", 6379, some "p", 0, false⟩ := by
  refine ⟨⟨.name "127.0.0.1", 6379, false, true, some "user", some "p", 0, .resp2⟩, ?_, rfl, rfl,
    ?_⟩
  · decide +kernel
  · intro h
    cases h.user

end Backlog.Redis
