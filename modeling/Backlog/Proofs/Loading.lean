import Backlog.Config.Environment
import Backlog.Proofs.Consistency
import Backlog.Proofs.Lowercase
import Backlog.Proofs.Numerals
import Backlog.Proofs.QueueList
import Backlog.Proofs.Utf8

/-!
# What an environment says

An environment is a configuration if and only if every setting passes its check, and the
configuration is what the settings say. Otherwise the first check that a setting does not pass
decides the fault.
-/

namespace Backlog.Environment

variable {env : Environment} {v : Variable}

/-- A setting that is there and has a text that is not blank. -/
def Gives (env : Environment) (v : Variable) (value : String) : Prop :=
  env v = some value ∧ ∃ c ∈ value.toList, Text.isBlank c = false

/-- A setting that is not there or is blank. -/
def Lacks (env : Environment) (v : Variable) : Prop := ∀ value, ¬env.Gives v value

lemma get?_eq_some_iff {value : String} : env.get? v = some value ↔ env.Gives v value := by
  rw [get?, Option.filter_eq_some_iff, Gives, Text.allBlank]
  simp

lemma get?_eq_none_iff : env.get? v = none ↔ env.Lacks v := by
  rw [Option.eq_none_iff_forall_ne_some]
  simp only [ne_eq, get?_eq_some_iff]
  rfl

lemma Gives.unique {a b : String} (ha : env.Gives v a) (hb : env.Gives v b) : a = b := by
  rw [← get?_eq_some_iff] at ha hb
  exact Option.some.inj (ha.symm.trans hb)

lemma Gives.trim_ne_nil {value : String} (h : env.Gives v value) :
    Text.trim value.toList ≠ [] := by
  obtain ⟨_, c, hc, hblank⟩ := h
  intro hnil
  rw [Text.trim_eq_nil_iff.mp hnil c hc] at hblank
  cases hblank

lemma Gives.trimmed_ne_empty {value : String} (h : env.Gives v value) :
    Text.trimmed value ≠ "" := by
  intro hempty
  apply h.trim_ne_nil
  rw [← String.toList_ofList (l := Text.trim value.toList)]
  exact congrArg String.toList hempty

/-- A trimmed text that is not empty is given as it stands. -/
lemma gives_of_trimmed {value : String} (hv : env v = some value)
    (h : Text.Trimmed value.toList) (hne : value ≠ "") : env.Gives v value := by
  refine ⟨hv, ?_⟩
  have hnot := h.not_blank (by simpa using hne)
  simpa using hnot

/-! ### Settings -/

/-- A setting by its reader: nothing if it is not there or blank. -/
def reading {α : Type} (env : Environment) (v : Variable) (read : String → Except ConfigFault α) :
    Except ConfigFault (Option α) :=
  match env.get? v with
  | none => .ok none
  | some value => (read value).map some

/-- What a setting says: its default if it is not there or blank, and else what its text means. -/
def Says {α : Type} (env : Environment) (v : Variable) (means : String → α → Prop) (default a : α) :
    Prop :=
  (env.Lacks v ∧ a = default) ∨ ∃ value, env.Gives v value ∧ means value a

section Readings

variable {α : Type} {read : String → Except ConfigFault α}

lemma reading_of_gives {value : String} (h : env.Gives v value) :
    env.reading v read = (read value).map some := by
  rw [reading, get?_eq_some_iff.mpr h]

lemma reading_eq_ok_iff {a? : Option α} : env.reading v read = .ok a? ↔
    (env.Lacks v ∧ a? = none) ∨
      ∃ value a, env.Gives v value ∧ read value = .ok a ∧ a? = some a := by
  simp only [← get?_eq_none_iff, ← get?_eq_some_iff, reading]
  cases env.get? v with
  | none => simp [eq_comm]
  | some value => cases hread : read value <;> simp [hread, Except.map, eq_comm]

lemma reading_eq_error_iff {fault : ConfigFault} : env.reading v read = .error fault ↔
    ∃ value, env.Gives v value ∧ read value = .error fault := by
  simp only [← get?_eq_some_iff, reading]
  cases env.get? v with
  | none => simp
  | some value => cases hread : read value <;> simp [hread, Except.map]

lemma reading_succeeds_iff : (∃ a?, env.reading v read = .ok a?) ↔
    ∀ value, env.Gives v value → ∃ a, read value = .ok a := by
  constructor
  · rintro ⟨a?, h⟩ value hvalue
    cases hread : read value with
    | ok a => exact ⟨a, rfl⟩
    | error fault =>
      rw [reading_eq_error_iff.mpr ⟨value, hvalue, hread⟩] at h
      cases h
  · intro h
    cases hreading : env.reading v read with
    | ok a? => exact ⟨a?, rfl⟩
    | error fault =>
      obtain ⟨value, hvalue, hread⟩ := reading_eq_error_iff.mp hreading
      obtain ⟨a, ha⟩ := h value hvalue
      rw [hread] at ha
      cases ha

lemma says_iff {means : String → α → Prop} (hread : ∀ value a, read value = .ok a ↔ means value a)
    {default a : α} : env.Says v means default a ↔
      ∃ a?, env.reading v read = .ok a? ∧ a = a?.getD default := by
  simp only [Says, reading_eq_ok_iff, ← hread]
  constructor
  · rintro (⟨hlacks, rfl⟩ | ⟨value, hvalue, ha⟩)
    · exact ⟨none, Or.inl ⟨hlacks, rfl⟩, rfl⟩
    · exact ⟨some a, Or.inr ⟨value, a, hvalue, ha, rfl⟩, rfl⟩
  · rintro ⟨_, ⟨hlacks, rfl⟩ | ⟨value, b, hvalue, hb, rfl⟩, rfl⟩
    · exact Or.inl ⟨hlacks, rfl⟩
    · exact Or.inr ⟨value, hvalue, hb⟩

end Readings

/-! ### Numbers -/

/-- A number that a text denotes, blanks around it aside, and that is within a limit. -/
def Number (limit : Nat) (value : String) (n : Nat) : Prop :=
  Numeral.Denotes (Text.trim value.toList) n ∧ n ≤ limit

def readNumber (v : Variable) (limit : Nat) (value : String) : Except ConfigFault Nat :=
  match Numeral.read limit (Text.trim value.toList) with
  | .ok n => .ok n
  | .error cause => .error (.badNumber v value cause)

lemma number?_eq_reading (limit : Nat) :
    env.number? v limit = env.reading v (readNumber v limit) := by
  rw [number?, reading]
  cases env.get? v with
  | none => rfl
  | some value =>
    dsimp only
    rw [readNumber]
    cases Numeral.read limit (Text.trim value.toList) <;> rfl

lemma readNumber_eq_ok_iff {limit : Nat} {value : String} {n : Nat} :
    readNumber v limit value = .ok n ↔ Number limit value n := by
  rw [Number, ← Numeral.read_eq_ok_iff, readNumber]
  cases Numeral.read limit (Text.trim value.toList) <;> simp

lemma readNumber_eq_error_iff {limit : Nat} {value : String} {fault : ConfigFault} :
    readNumber v limit value = .error fault ↔
      ∃ cause, Numeral.read limit (Text.trim value.toList) = .error cause ∧
        fault = .badNumber v value cause := by
  rw [readNumber]
  cases Numeral.read limit (Text.trim value.toList) <;> simp [eq_comm]

/-! ### Switches -/

/-- The words for a switch that is on and for one that is off. -/
def switchWords (b : Bool) : List String :=
  if b then ["true", "1", "yes", "on"] else ["false", "0", "no", "off"]

/-- A text that is one of the words for a switch, blanks around it aside, in ASCII letters of
either case. -/
def Switch (value : String) (b : Bool) : Prop :=
  ∃ word ∈ switchWords b, (Text.trim value.toList).map Char.toLower = word.toList

lemma lower_mem_switchWords_iff {cs : List Char} {b : Bool} :
    String.ofList (Text.lower cs) ∈ switchWords b ↔
      ∃ word ∈ switchWords b, cs.map Char.toLower = word.toList := by
  have hplain : ∀ word ∈ switchWords b, ∀ c ∈ word.toList, c.toNat < 128 ∧ c ≠ 'k' := by
    have hall : (switchWords b).all fun word =>
        word.toList.all fun c => decide (c.toNat < 128 ∧ c ≠ 'k') := by
      cases b <;> decide
    simpa using hall
  constructor
  · intro h
    exact ⟨_, h, (Text.lower_eq_iff (hplain _ h)).mp (String.toList_ofList).symm⟩
  · rintro ⟨word, hword, hcs⟩
    rw [(Text.lower_eq_iff (hplain word hword)).mpr hcs, String.ofList_toList]
    exact hword

lemma switchOfWord?_eq_some_iff {cs : List Char} {b : Bool} :
    switchOfWord? cs = some b ↔
      ∃ word ∈ switchWords b, cs.map Char.toLower = word.toList := by
  have hcases : switchOfWord? cs =
      if String.ofList (Text.lower cs) ∈ switchWords true then some true
      else if String.ofList (Text.lower cs) ∈ switchWords false then some false else none := rfl
  have hapart : ∀ word ∈ switchWords true, word ∉ switchWords false := by decide
  rw [← lower_mem_switchWords_iff, hcases]
  by_cases hon : String.ofList (Text.lower cs) ∈ switchWords true
  · rw [if_pos hon]
    cases b
    · simp [hapart _ hon]
    · simp [hon]
  · rw [if_neg hon]
    by_cases hoff : String.ofList (Text.lower cs) ∈ switchWords false
    · rw [if_pos hoff]
      cases b
      · simp [hoff]
      · simp [hon]
    · rw [if_neg hoff]
      cases b
      · simp [hoff]
      · simp [hon]

def readSwitch (v : Variable) (value : String) : Except ConfigFault Bool :=
  match switchOfWord? (Text.trim value.toList) with
  | some b => .ok b
  | none => .error (.badSwitch v value)

lemma switch?_eq_reading : env.switch? v = env.reading v (readSwitch v) := by
  rw [switch?, reading]
  cases env.get? v with
  | none => rfl
  | some value =>
    dsimp only
    rw [readSwitch]
    cases switchOfWord? (Text.trim value.toList) <;> rfl

lemma readSwitch_eq_ok_iff {value : String} {b : Bool} :
    readSwitch v value = .ok b ↔ Switch value b := by
  rw [Switch, ← switchOfWord?_eq_some_iff, readSwitch]
  cases switchOfWord? (Text.trim value.toList) <;> simp

lemma eq_badSwitch_of_readSwitch {value : String} {fault : ConfigFault}
    (h : readSwitch v value = .error fault) : fault = .badSwitch v value := by
  rw [readSwitch] at h
  cases hword : switchOfWord? (Text.trim value.toList) with
  | none =>
    rw [hword] at h
    exact (Except.error.inj h).symm
  | some b =>
    rw [hword] at h
    cases h

/-! ### The list of queues -/

def readQueues (value : String) : Except ConfigFault (List Queue) :=
  match Queue.readList value with
  | .ok queues => .ok queues
  | .error entry => .error (.badEntry entry)

lemma queues?_eq_reading : env.queues? = env.reading .queues readQueues := by
  rw [queues?, reading]
  cases env.get? .queues with
  | none => rfl
  | some value =>
    dsimp only
    rw [readQueues]
    cases Queue.readList value <;> rfl

lemma readQueues_eq_ok_iff {value : String} {queues : List Queue} :
    readQueues value = .ok queues ↔ Queue.Lists value queues := by
  rw [readQueues, ← Queue.readList_eq_ok_iff]
  cases Queue.readList value <;> simp

lemma readQueues_eq_error_iff {value : String} {fault : ConfigFault} :
    readQueues value = .error fault ↔
      ∃ entry, Queue.firstNameless? value = some entry ∧
        fault = .badEntry (String.ofList entry) := by
  have hread : readQueues value = .error fault ↔
      ∃ text, Queue.readList value = .error text ∧ fault = .badEntry text := by
    rw [readQueues]
    cases Queue.readList value <;> simp [eq_comm]
  simp only [hread, Queue.readList_eq_error_iff]
  constructor
  · rintro ⟨_, ⟨entry, hentry, rfl⟩, rfl⟩
    exact ⟨entry, hentry, rfl⟩
  · rintro ⟨entry, hentry, rfl⟩
    exact ⟨_, ⟨entry, hentry, rfl⟩, rfl⟩

/-! ### The draft -/

lemma bind_eq_ok_iff {α β : Type} {x : Except ConfigFault α} {f : α → Except ConfigFault β}
    {b : β} :
    x >>= f = .ok b ↔ ∃ a, x = .ok a ∧ f a = .ok b := by
  cases x <;> simp [Bind.bind, Except.bind]

lemma bind_of_ok {α β : Type} {x : Except ConfigFault α} {a : α} (h : x = .ok a)
    (f : α → Except ConfigFault β) : x >>= f = f a := by
  rw [h]
  rfl

lemma bind_of_error {α β : Type} {x : Except ConfigFault α} {fault : ConfigFault}
    (h : x = .error fault) (f : α → Except ConfigFault β) : x >>= f = .error fault := by
  rw [h]
  rfl

/-- The draft of an environment, from what its settings read as. -/
def drafted (env : Environment) (port database : Option Nat) (tls : Option Bool)
    (queues : Option (List Queue)) : Draft where
  host := (env.get? .host).map Text.trimmed
  port := (port.map UInt16.ofNat).getD StoreConfig.defaultPort
  password := env.get? .password
  database := (database.map UInt32.ofNat).getD StoreConfig.defaultDatabase
  tls := tls.getD true
  metricNamespace := ((env.get? .metricNamespace).map Text.trimmed).getD Config.defaultNamespace
  queues := queues.getD Queue.defaults

/-- Loading reads four settings, one after the other, and then builds. -/
lemma config_eq (env : Environment) : env.config = (do
    let port ← env.reading .port (readNumber .port 65535)
    let database ← env.reading .database (readNumber .database 4294967295)
    let tls ← env.reading .tls (readSwitch .tls)
    let queues ← env.reading .queues readQueues
    (env.drafted port database tls queues).build) := by
  simp only [config, draft, number?_eq_reading, switch?_eq_reading, queues?_eq_reading, bind_assoc,
    pure_bind]
  rfl

lemma drafted_namespace_ne_empty (port database : Option Nat) (tls : Option Bool)
    (queues : Option (List Queue)) :
    (env.drafted port database tls queues).metricNamespace ≠ "" := by
  unfold drafted
  cases hname : env.get? .metricNamespace with
  | none =>
    have hdefault : Config.defaultNamespace ≠ "" := by decide
    exact hdefault
  | some value => exact (get?_eq_some_iff.mp hname).trimmed_ne_empty

section Built

variable {port database : Option Nat} {tls : Option Bool} {queues : Option (List Queue)}

lemma build_drafted_of_lacks (h : env.Lacks .host) :
    (env.drafted port database tls queues).build = .error .noHost := by
  apply Draft.build_of_no_host
  rw [drafted, get?_eq_none_iff.mpr h]
  rfl

lemma build_drafted_of_host {value : String} (h : env.Gives .host value) :
    (env.drafted port database tls queues).build =
      match Draft.listFault? (queues.getD Queue.defaults) with
      | some fault => .error fault
      | none => .ok ((env.drafted port database tls queues).settled (Text.trimmed value)) := by
  apply Draft.build_of_host _ h.trimmed_ne_empty (drafted_namespace_ne_empty _ _ _ _)
  rw [drafted, get?_eq_some_iff.mpr h]
  rfl

/-- A draft is a configuration if its host is given and its queues can be told apart. -/
lemma build_drafted_eq_ok_iff {c : Config} :
    (env.drafted port database tls queues).build = .ok c ↔
      ∃ value, env.Gives .host value ∧ Queue.Distinguishable (queues.getD Queue.defaults) ∧
        c = (env.drafted port database tls queues).settled (Text.trimmed value) := by
  cases hhost : env.get? .host with
  | none =>
    have hlacks := get?_eq_none_iff.mp hhost
    rw [build_drafted_of_lacks hlacks]
    constructor
    · intro h
      cases h
    · rintro ⟨value, hvalue, _⟩
      exact absurd hvalue (hlacks value)
  | some value =>
    have hvalue := get?_eq_some_iff.mp hhost
    rw [build_drafted_of_host hvalue, ← Draft.listFault?_eq_none_iff]
    cases Draft.listFault? (queues.getD Queue.defaults) with
    | some fault => simp
    | none =>
      simp only [Except.ok.injEq, true_and]
      constructor
      · rintro rfl
        exact ⟨value, hvalue, rfl⟩
      · rintro ⟨value', hvalue', rfl⟩
        rw [hvalue.unique hvalue']

end Built

/-! ### The checks -/

/-- What is checked about an environment. -/
inductive Check where
  | port
  | database
  | tls
  | queueList
  | host
  | queues
deriving DecidableEq

/-- The place of a check in the order in which they are made. -/
def Check.place : Check → Nat
  | port => 0
  | database => 1
  | tls => 2
  | queueList => 3
  | host => 4
  | queues => 5

/-- A setting that is not there or blank passes every check but that of the host. -/
def Passes (env : Environment) : Check → Prop
  | .port => ∀ value, env.Gives .port value → ∃ n, Number 65535 value n
  | .database => ∀ value, env.Gives .database value → ∃ n, Number 4294967295 value n
  | .tls => ∀ value, env.Gives .tls value → ∃ b, Switch value b
  | .queueList => ∀ value, env.Gives .queues value → ∃ queues, Queue.Lists value queues
  | .host => ∃ value, env.Gives .host value
  | .queues => ∀ value queues, env.Gives .queues value → Queue.Lists value queues →
      Queue.Distinguishable queues

/-- The fault of a setting that is no number within a limit: its text and what is wrong with it. -/
def BadNumber (env : Environment) (v : Variable) (limit : Nat) (fault : ConfigFault) : Prop :=
  ∃ value cause, env.Gives v value ∧
    Numeral.read limit (Text.trim value.toList) = .error cause ∧ fault = .badNumber v value cause

/-- What a check finds where it is not passed. -/
def Finds (env : Environment) : Check → ConfigFault → Prop
  | .port, fault => env.BadNumber .port 65535 fault
  | .database, fault => env.BadNumber .database 4294967295 fault
  | .tls, fault => ∃ value, env.Gives .tls value ∧ fault = .badSwitch .tls value
  | .queueList, fault => ∃ value entry, env.Gives .queues value ∧
      Queue.firstNameless? value = some entry ∧ fault = .badEntry (String.ofList entry)
  | .host, fault => fault = .noHost
  | .queues, fault => ∃ value queues, env.Gives .queues value ∧
      Queue.Lists value queues ∧ Draft.listFault? queues = some fault

/-- The configuration that an environment says. -/
structure Describes (env : Environment) (c : Config) : Prop where
  host : ∃ value, env.Gives .host value ∧ c.store.host = Text.trimmed value
  port : env.Says .port (Number 65535) 6379 c.store.port.toNat
  password : ∀ value, c.store.password = some value ↔ env.Gives .password value
  database : env.Says .database (Number 4294967295) 0 c.store.database.toNat
  tls : env.Says .tls Switch true c.store.tls
  metricNamespace : env.Says .metricNamespace (fun value name => name = Text.trimmed value)
    "CustomRedisMetrics" c.metricNamespace
  queues : env.Says .queues Queue.Lists Queue.defaults c.queues
  distinguishable : Queue.Distinguishable c.queues

lemma le_of_reading_number {limit n : Nat}
    (h : env.reading v (readNumber v limit) = .ok (some n)) : n ≤ limit := by
  rcases reading_eq_ok_iff.mp h with ⟨_, hnone⟩ | ⟨value, m, _, hread, hm⟩
  · cases hnone
  · obtain rfl := Option.some.inj hm
    exact (readNumber_eq_ok_iff.mp hread).2

lemma toNat_port {port : Option Nat}
    (h : env.reading .port (readNumber .port 65535) = .ok port) :
    ((port.map UInt16.ofNat).getD StoreConfig.defaultPort).toNat = port.getD 6379 := by
  cases port with
  | none => rfl
  | some n =>
    have hn := le_of_reading_number h
    exact UInt16.toNat_ofNat_of_lt' (Nat.lt_succ_of_le hn)

lemma toNat_database {database : Option Nat}
    (h : env.reading .database (readNumber .database 4294967295) = .ok database) :
    ((database.map UInt32.ofNat).getD StoreConfig.defaultDatabase).toNat = database.getD 0 := by
  cases database with
  | none => rfl
  | some n =>
    have hn := le_of_reading_number h
    exact UInt32.toNat_ofNat_of_lt' (Nat.lt_succ_of_le hn)

lemma says_namespace_iff {name : String} :
    env.Says .metricNamespace (fun value name => name = Text.trimmed value)
      "CustomRedisMetrics" name ↔
      name = ((env.get? .metricNamespace).map Text.trimmed).getD Config.defaultNamespace := by
  simp only [Says, ← get?_eq_none_iff, ← get?_eq_some_iff]
  cases env.get? .metricNamespace <;> simp [Config.defaultNamespace]

/-- A configuration is loaded if and only if it is what the settings say. -/
theorem config_eq_ok_iff {c : Config} : env.config = .ok c ↔ env.Describes c := by
  simp only [config_eq, bind_eq_ok_iff]
  constructor
  · rintro ⟨port, hport, database, hdatabase, tls, htls, queues, hqueues, hbuild⟩
    obtain ⟨value, hvalue, hdistinguishable, rfl⟩ := build_drafted_eq_ok_iff.mp hbuild
    constructor
    · exact ⟨value, hvalue, rfl⟩
    · exact (says_iff fun _ _ => readNumber_eq_ok_iff).mpr ⟨port, hport, toNat_port hport⟩
    · exact fun _ => get?_eq_some_iff
    · exact (says_iff fun _ _ => readNumber_eq_ok_iff).mpr
        ⟨database, hdatabase, toNat_database hdatabase⟩
    · exact (says_iff fun _ _ => readSwitch_eq_ok_iff).mpr ⟨tls, htls, rfl⟩
    · exact says_namespace_iff.mpr rfl
    · exact (says_iff fun _ _ => readQueues_eq_ok_iff).mpr ⟨queues, hqueues, rfl⟩
    · exact hdistinguishable
  · intro h
    obtain ⟨value, hvalue, hhost⟩ := h.host
    obtain ⟨port, hport, hport'⟩ := (says_iff fun _ _ => readNumber_eq_ok_iff).mp h.port
    obtain ⟨database, hdatabase, hdatabase'⟩ :=
      (says_iff fun _ _ => readNumber_eq_ok_iff).mp h.database
    obtain ⟨tls, htls, htls'⟩ := (says_iff fun _ _ => readSwitch_eq_ok_iff).mp h.tls
    obtain ⟨queues, hqueues, hqueues'⟩ := (says_iff fun _ _ => readQueues_eq_ok_iff).mp h.queues
    refine ⟨port, hport, database, hdatabase, tls, htls, queues, hqueues,
      build_drafted_eq_ok_iff.mpr ⟨value, hvalue, hqueues' ▸ h.distinguishable, ?_⟩⟩
    have hpassword : c.store.password = env.get? .password := by
      apply Option.ext
      intro password
      rw [get?_eq_some_iff]
      exact h.password password
    have hname := says_namespace_iff.mp h.metricNamespace
    rw [← toNat_port hport, UInt16.toNat_inj] at hport'
    rw [← toNat_database hdatabase, UInt32.toNat_inj] at hdatabase'
    obtain ⟨⟨host, p, password, db, t⟩, name, qs⟩ := c
    dsimp only at hhost hport' hpassword hdatabase' htls' hname hqueues'
    subst hhost hport' hpassword hdatabase' htls' hname hqueues'
    rfl

/-! ### The first fault -/

section Unread

variable {α : Type} {read : String → Except ConfigFault α} {means : String → α → Prop}

lemma exists_reading_of_all (hread : ∀ value a, read value = .ok a ↔ means value a)
    (h : ∀ value, env.Gives v value → ∃ a, means value a) : ∃ a?, env.reading v read = .ok a? := by
  simp only [← hread] at h
  exact reading_succeeds_iff.mpr h

/-- A setting that cannot be read is refused for its text. -/
lemma exists_fault_of_not_all (hread : ∀ value a, read value = .ok a ↔ means value a)
    (h : ¬∀ value, env.Gives v value → ∃ a, means value a) :
    ∃ value fault, env.Gives v value ∧ read value = .error fault ∧
      env.reading v read = .error fault := by
  simp only [← hread] at h
  rw [← reading_succeeds_iff] at h
  cases hreading : env.reading v read with
  | ok a? => exact absurd ⟨a?, hreading⟩ h
  | error fault =>
    obtain ⟨value, hvalue, hfault⟩ := reading_eq_error_iff.mp hreading
    exact ⟨value, fault, hvalue, hfault, rfl⟩

end Unread

lemma exists_port (h : env.Passes .port) :
    ∃ port, env.reading .port (readNumber .port 65535) = .ok port :=
  exists_reading_of_all (fun _ _ => readNumber_eq_ok_iff) h

lemma exists_database (h : env.Passes .database) :
    ∃ database, env.reading .database (readNumber .database 4294967295) = .ok database :=
  exists_reading_of_all (fun _ _ => readNumber_eq_ok_iff) h

lemma exists_tls (h : env.Passes .tls) :
    ∃ tls, env.reading .tls (readSwitch .tls) = .ok tls :=
  exists_reading_of_all (fun _ _ => readSwitch_eq_ok_iff) h

lemma exists_queues (h : env.Passes .queueList) :
    ∃ queues, env.reading .queues readQueues = .ok queues :=
  exists_reading_of_all (fun _ _ => readQueues_eq_ok_iff) h

lemma exists_badNumber {limit : Nat}
    (h : ¬∀ value, env.Gives v value → ∃ n, Number limit value n) :
    ∃ fault, env.reading v (readNumber v limit) = .error fault ∧ env.BadNumber v limit fault := by
  obtain ⟨value, fault, hvalue, hread, hfault⟩ :=
    exists_fault_of_not_all (fun _ _ => readNumber_eq_ok_iff (v := v)) h
  obtain ⟨cause, hcause, rfl⟩ := readNumber_eq_error_iff.mp hread
  exact ⟨_, hfault, value, cause, hvalue, hcause, rfl⟩

/-- The first check that is not passed decides the fault. -/
theorem config_of_first_fault {check : Check}
    (hbefore : ∀ earlier : Check, earlier.place < check.place → env.Passes earlier)
    (h : ¬env.Passes check) : ∃ fault, env.config = .error fault ∧ env.Finds check fault := by
  rw [config_eq]
  -- In each case the readings before the check succeed, and its own ends the loading.
  cases check with
  | port =>
    obtain ⟨fault, hfault, hfinds⟩ := exists_badNumber h
    exact ⟨fault, bind_of_error hfault _, hfinds⟩
  | database =>
    obtain ⟨port, hport⟩ := exists_port (hbefore .port (by decide))
    obtain ⟨fault, hfault, hfinds⟩ := exists_badNumber h
    rw [bind_of_ok hport, bind_of_error hfault]
    exact ⟨fault, rfl, hfinds⟩
  | tls =>
    obtain ⟨port, hport⟩ := exists_port (hbefore .port (by decide))
    obtain ⟨database, hdatabase⟩ := exists_database (hbefore .database (by decide))
    obtain ⟨value, fault, hvalue, hread, hfault⟩ :=
      exists_fault_of_not_all (fun _ _ => readSwitch_eq_ok_iff (v := .tls)) h
    obtain rfl := eq_badSwitch_of_readSwitch hread
    rw [bind_of_ok hport, bind_of_ok hdatabase, bind_of_error hfault]
    exact ⟨_, rfl, value, hvalue, rfl⟩
  | queueList =>
    obtain ⟨port, hport⟩ := exists_port (hbefore .port (by decide))
    obtain ⟨database, hdatabase⟩ := exists_database (hbefore .database (by decide))
    obtain ⟨tls, htls⟩ := exists_tls (hbefore .tls (by decide))
    obtain ⟨value, fault, hvalue, hread, hfault⟩ :=
      exists_fault_of_not_all (fun _ _ => readQueues_eq_ok_iff) h
    obtain ⟨entry, hentry, rfl⟩ := readQueues_eq_error_iff.mp hread
    rw [bind_of_ok hport, bind_of_ok hdatabase, bind_of_ok htls, bind_of_error hfault]
    exact ⟨_, rfl, value, entry, hvalue, hentry, rfl⟩
  | host =>
    obtain ⟨port, hport⟩ := exists_port (hbefore .port (by decide))
    obtain ⟨database, hdatabase⟩ := exists_database (hbefore .database (by decide))
    obtain ⟨tls, htls⟩ := exists_tls (hbefore .tls (by decide))
    obtain ⟨queues, hqueues⟩ := exists_queues (hbefore .queueList (by decide))
    rw [bind_of_ok hport, bind_of_ok hdatabase, bind_of_ok htls, bind_of_ok hqueues,
      build_drafted_of_lacks (not_exists.mp h)]
    exact ⟨_, rfl, rfl⟩
  | queues =>
    obtain ⟨port, hport⟩ := exists_port (hbefore .port (by decide))
    obtain ⟨database, hdatabase⟩ := exists_database (hbefore .database (by decide))
    obtain ⟨tls, htls⟩ := exists_tls (hbefore .tls (by decide))
    obtain ⟨host, hhost⟩ := hbefore .host (by decide)
    simp only [Passes, not_forall] at h
    obtain ⟨value, queues, hvalue, hread, hlist⟩ := h
    rw [← Draft.listFault?_eq_none_iff, ← ne_eq, Option.ne_none_iff_exists'] at hlist
    obtain ⟨fault, hfault⟩ := hlist
    have hqueues : env.reading .queues readQueues = .ok (some queues) :=
      reading_eq_ok_iff.mpr (Or.inr ⟨value, queues, hvalue, readQueues_eq_ok_iff.mpr hread, rfl⟩)
    rw [bind_of_ok hport, bind_of_ok hdatabase, bind_of_ok htls, bind_of_ok hqueues,
      build_drafted_of_host hhost, Option.getD_some, hfault]
    exact ⟨fault, rfl, value, queues, hvalue, hread, hfault⟩

lemma BadNumber.unique {limit : Nat} {a b : ConfigFault} (ha : env.BadNumber v limit a)
    (hb : env.BadNumber v limit b) : a = b := by
  obtain ⟨value, cause, hvalue, hcause, rfl⟩ := ha
  obtain ⟨value', cause', hvalue', hcause', rfl⟩ := hb
  obtain rfl := hvalue.unique hvalue'
  rw [Except.error.inj (hcause.symm.trans hcause')]

/-- A fault is found at one check, for one reason. -/
lemma Finds.unique {check : Check} {a b : ConfigFault} (ha : env.Finds check a)
    (hb : env.Finds check b) : a = b := by
  cases check with
  | port => exact BadNumber.unique ha hb
  | database => exact BadNumber.unique ha hb
  | tls =>
    obtain ⟨value, hvalue, rfl⟩ := ha
    obtain ⟨value', hvalue', rfl⟩ := hb
    rw [hvalue.unique hvalue']
  | queueList =>
    obtain ⟨value, entry, hvalue, hentry, rfl⟩ := ha
    obtain ⟨value', entry', hvalue', hentry', rfl⟩ := hb
    obtain rfl := hvalue.unique hvalue'
    rw [Option.some.inj (hentry.symm.trans hentry')]
  | host => exact Eq.trans ha (Eq.symm hb)
  | queues =>
    obtain ⟨value, queues, hvalue, hread, ha⟩ := ha
    obtain ⟨value', queues', hvalue', hread', hb⟩ := hb
    obtain rfl := hvalue.unique hvalue'
    obtain rfl := hread.unique hread'
    exact Option.some.inj (ha.symm.trans hb)

/-- A check that is not passed, where all that are made before it are. -/
def FirstUnpassed (env : Environment) (check : Check) : Prop :=
  ¬env.Passes check ∧ ∀ earlier : Check, earlier.place < check.place → env.Passes earlier

lemma exists_firstUnpassed {check : Check} (h : ¬env.Passes check) :
    ∃ first, env.FirstUnpassed first := by
  -- Of the checks that are not passed, one made before this one is the smaller case.
  induction hplace : check.place using Nat.strong_induction_on generalizing check with
  | h place ih =>
    by_cases hbefore : ∀ earlier : Check, earlier.place < check.place → env.Passes earlier
    · exact ⟨check, h, hbefore⟩
    · simp only [not_forall] at hbefore
      obtain ⟨earlier, hearlier, hnot⟩ := hbefore
      exact ih earlier.place (hplace ▸ hearlier) hnot rfl

lemma exists_config_of_passes (h : ∀ check, env.Passes check) : ∃ c, env.config = .ok c := by
  obtain ⟨port, hport⟩ := exists_port (h .port)
  obtain ⟨database, hdatabase⟩ := exists_database (h .database)
  obtain ⟨tls, htls⟩ := exists_tls (h .tls)
  obtain ⟨queues, hqueues⟩ := exists_queues (h .queueList)
  obtain ⟨host, hhost⟩ := h .host
  have hlist : Queue.Distinguishable (queues.getD Queue.defaults) := by
    rcases reading_eq_ok_iff.mp hqueues with ⟨_, rfl⟩ | ⟨value, qs, hvalue, hread, rfl⟩
    · exact Queue.distinguishable_defaults
    · exact h .queues value qs hvalue (readQueues_eq_ok_iff.mp hread)
  rw [config_eq, bind_of_ok hport, bind_of_ok hdatabase, bind_of_ok htls, bind_of_ok hqueues]
  exact ⟨_, build_drafted_eq_ok_iff.mpr ⟨host, hhost, hlist, rfl⟩⟩

/-- An environment is loaded if and only if it passes every check, as the configuration that its
settings describe and no other. Otherwise the fault is what the first check that it does not pass
finds, a fault of configuration. A process's variable that is not UTF-8 counts as not set. -/
theorem loaded_iff_passes (env : Environment) :
    ((∃ c, env.config = .ok c) ↔ ∀ check, env.Passes check) ∧
    (∀ c, env.config = .ok c ↔ env.Describes c) ∧
    (∀ fault, env.config = .error fault ↔
      ∃ check, env.FirstUnpassed check ∧ env.Finds check fault) ∧
    (∀ fault, env.config = .error fault → fault.toFault.kind = "config") ∧
    ∀ (lookup : String → Option (List UInt8)) (v : Variable) (value : String),
      ofBytes lookup v = some value ↔ lookup v.name = some (Utf8.encode value) := by
  have hfirst {check : Check} (h : env.FirstUnpassed check) :
      ∃ fault, env.config = .error fault ∧ env.Finds check fault :=
    config_of_first_fault h.2 h.1
  refine ⟨⟨?_, exists_config_of_passes⟩, fun c => config_eq_ok_iff, fun fault => ⟨?_, ?_⟩,
    fun _ _ => rfl, ?_⟩
  · rintro ⟨c, hc⟩ check
    by_contra hnot
    obtain ⟨first, h⟩ := exists_firstUnpassed hnot
    obtain ⟨fault, hfault, _⟩ := hfirst h
    rw [hc] at hfault
    cases hfault
  · intro hfault
    have hnot : ¬∀ check, env.Passes check := by
      intro hall
      obtain ⟨c, hc⟩ := exists_config_of_passes hall
      rw [hc] at hfault
      cases hfault
    obtain ⟨check, hcheck⟩ := not_forall.mp hnot
    obtain ⟨first, h⟩ := exists_firstUnpassed hcheck
    obtain ⟨fault', hfault', hfinds⟩ := hfirst h
    rw [hfault'] at hfault
    obtain rfl := Except.error.inj hfault
    exact ⟨first, h, hfinds⟩
  · rintro ⟨check, h, hfinds⟩
    obtain ⟨fault', hfault', hfinds'⟩ := hfirst h
    rw [hfault', hfinds'.unique hfinds]
  · intro lookup v value
    simp only [ofBytes, Option.bind_eq_some_iff, Utf8.decode?_eq_some_iff, exists_eq_right]

end Backlog.Environment
