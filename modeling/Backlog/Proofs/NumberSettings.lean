import Backlog.Proofs.Loading

/-!
# Settings that are numbers

The port and the database are numbers, each within a limit of its own. A text that denotes such a
number sets it, whatever the other settings are; any other text is refused and quoted as it stands,
as too large if its digits exceed the limit before anything else is met, and else as no number.
-/

namespace Backlog.Environment

inductive NumberSetting where
  | port
  | database
deriving DecidableEq

namespace NumberSetting

def toVariable : NumberSetting → Variable
  | port => .port
  | database => .database

def limit : NumberSetting → Nat
  | port => 65535
  | database => 4294967295

/-- The change of a draft that sets the number. -/
def change (n : Nat) : NumberSetting → Draft.Change
  | port => .port (.ofNat n)
  | database => .database (.ofNat n)

/-- The number that a draft has. -/
def number (d : Draft) : NumberSetting → Nat
  | port => d.port.toNat
  | database => d.database.toNat

/-- A number within the limit is kept as it is. -/
lemma number_set_change (s : NumberSetting) {n : Nat} (hn : n ≤ s.limit) (d : Draft) :
    s.number (d.set (s.change n)) = n := by
  cases s with
  | port => exact UInt16.toNat_ofNat_of_lt' (Nat.lt_succ_of_le hn)
  | database => exact UInt32.toNat_ofNat_of_lt' (Nat.lt_succ_of_le hn)

end NumberSetting

/-- The number in a setting, if it is there and not blank. -/
def numberIn (env : Environment) (s : NumberSetting) : Except ConfigFault (Option Nat) :=
  env.number? s.toVariable s.limit

/-- The environment in which one setting is not there. -/
def without (env : Environment) (v : Variable) : Environment :=
  fun w => if w = v then none else env w

variable {env : Environment} {s s' : NumberSetting} {v w : Variable} {t : String} {n : Nat}

section Without

lemma get?_without_self : (env.without v).get? v = none := by
  rw [get?, without, if_pos rfl]
  rfl

lemma get?_without_of_ne (h : w ≠ v) : (env.without v).get? w = env.get? w := by
  rw [get?, get?, without, if_neg h]

lemma numberIn_without_self : (env.without s.toVariable).numberIn s = .ok none := by
  rw [numberIn, number?, get?_without_self]

lemma numberIn_without_of_ne (h : s' ≠ s) :
    (env.without s.toVariable).numberIn s' = env.numberIn s' := by
  have hne : s'.toVariable ≠ s.toVariable := by
    cases s <;> cases s' <;> first | exact absurd rfl h | decide
  rw [numberIn, numberIn, number?, number?, get?_without_of_ne hne]

end Without

/-! ### Drafts -/

/-- What is left to be read once the numbers are. -/
def afterNumbers (env : Environment) (port database : Option Nat) : Except ConfigFault Draft := do
  let tls ← env.switch? .tls
  let queues ← env.queues?
  return env.drafted port database tls queues

/-- The port is read first, and then the database. -/
lemma draft_eq (env : Environment) : env.draft = (do
    let port ← env.numberIn .port
    let database ← env.numberIn .database
    env.afterNumbers port database) := rfl

/-- The rest does not look at the numbers again. -/
lemma afterNumbers_without (s : NumberSetting) (port database : Option Nat) :
    (env.without s.toVariable).afterNumbers port database = env.afterNumbers port database := by
  have hother : ∀ w, w ≠ .port → w ≠ .database →
      (env.without s.toVariable).get? w = env.get? w := by
    intro w hport hdatabase
    apply get?_without_of_ne
    cases s with
    | port => exact hport
    | database => exact hdatabase
  have hhost := hother .host (by decide) (by decide)
  have hpassword := hother .password (by decide) (by decide)
  have htls := hother .tls (by decide) (by decide)
  have hname := hother .metricNamespace (by decide) (by decide)
  have hqueues := hother .queues (by decide) (by decide)
  simp only [afterNumbers, switch?, queues?, drafted, hhost, hpassword, htls, hname, hqueues]

lemma afterNumbers_map {change : Draft → Draft} {port database port' database' : Option Nat}
    (h : ∀ tls queues, change (env.drafted port database tls queues) =
      env.drafted port' database' tls queues) :
    (env.afterNumbers port database).map change = env.afterNumbers port' database' := by
  rw [afterNumbers, afterNumbers]
  cases env.switch? .tls with
  | error fault => rfl
  | ok tls =>
    cases env.queues? with
    | error fault => rfl
    | ok queues => exact congrArg Except.ok (h tls queues)

/-- A number comes to what the other settings come to, with the number set. -/
theorem draft_of_number (h : env.numberIn s = .ok (some n)) :
    env.draft = (env.without s.toVariable).draft.map (·.set (s.change n)) := by
  rw [draft_eq, draft_eq]
  simp only [afterNumbers_without]
  -- A fault in the other number, read before or after, ends the loading in both environments.
  cases s with
  | port =>
    rw [bind_of_ok h, bind_of_ok numberIn_without_self, numberIn_without_of_ne (by decide)]
    cases env.numberIn .database with
    | error fault => rfl
    | ok database => exact (afterNumbers_map fun _ _ => rfl).symm
  | database =>
    rw [numberIn_without_of_ne (by decide)]
    cases env.numberIn .port with
    | error fault => rfl
    | ok port =>
      rw [bind_of_ok rfl, bind_of_ok rfl, bind_of_ok h, bind_of_ok numberIn_without_self]
      exact (afterNumbers_map fun _ _ => rfl).symm

/-- A fault in a number ends the loading, unless the port has one before. -/
lemma draft_of_fault {fault : ConfigFault} (hport : s = .database → env.Passes .port)
    (h : env.numberIn s = .error fault) : env.draft = .error fault := by
  rw [draft_eq]
  cases s with
  | port => exact bind_of_error h _
  | database =>
    obtain ⟨port, hread⟩ := exists_port (hport rfl)
    rw [← number?_eq_reading] at hread
    have hok : env.numberIn .port = .ok port := hread
    rw [bind_of_ok hok, bind_of_error h]

/-! ### Texts -/

lemma numberIn_of_gives (h : env.Gives s.toVariable t) :
    env.numberIn s = (readNumber s.toVariable s.limit t).map some := by
  rw [numberIn, number?_eq_reading, reading_of_gives h]

lemma numberIn_eq_ok_iff (h : env.Gives s.toVariable t) :
    env.numberIn s = .ok (some n) ↔ Number s.limit t n := by
  rw [numberIn_of_gives h, ← readNumber_eq_ok_iff]
  cases readNumber s.toVariable s.limit t <;> simp [Except.map]

/-- What is said of a text that is no number within a limit. -/
inductive Complaint (limit : Nat) (t : String) : String → Prop where
  | tooLarge (h : Numeral.Exceeds limit (Text.trim t.toList)) :
      Complaint limit t "number too large to fit in target type"
  | notDigit (h : ¬Numeral.Exceeds limit (Text.trim t.toList)) :
      Complaint limit t "invalid digit found in string"

lemma exists_complaint (h : env.Gives s.toVariable t) (hnot : ∀ n, ¬Number s.limit t n) :
    ∃ fault reason, env.numberIn s = .error fault ∧ Complaint s.limit t reason ∧
      fault.toFault = .config
        ("invalid value '" ++ t ++ "' for " ++ s.toVariable.name ++ ": " ++ reason) := by
  cases hread : readNumber s.toVariable s.limit t with
  | ok n => exact absurd (readNumber_eq_ok_iff.mp hread) (hnot n)
  | error fault =>
    obtain ⟨cause, hcause, rfl⟩ := readNumber_eq_error_iff.mp hread
    have hlarge := Numeral.tooLarge_iff_of_read hcause
    refine ⟨.badNumber s.toVariable t cause, cause.message, ?_, ?_, rfl⟩
    · rw [numberIn_of_gives h, hread]
      rfl
    · cases cause with
      | notDigit => exact .notDigit fun h => by cases hlarge.mpr h
      | tooLarge => exact .tooLarge (hlarge.mp rfl)

/-- A text that is not blank sets a number if it denotes one within the limit, and then it changes
nothing else about the loading. Any other text is refused by name and as it stands, with the one
complaint that is true of it, and ends the loading, a database unless the port has ended it before.
Up to the limit of the port both settings take the same texts for the same numbers. -/
theorem number_settings_judged :
    (∀ (env : Environment) (s : NumberSetting) (t : String) (n : Nat),
      env.Gives s.toVariable t → Number s.limit t n →
        env.draft = (env.without s.toVariable).draft.map (·.set (s.change n)) ∧
        ∀ d : Draft, s.number (d.set (s.change n)) = n) ∧
    (∀ (env : Environment) (s : NumberSetting) (t : String),
      env.Gives s.toVariable t → (∀ n, ¬Number s.limit t n) →
        ∃ fault reason, env.numberIn s = .error fault ∧
          ((s = .database → env.Passes .port) → env.draft = .error fault) ∧
          Complaint s.limit t reason ∧ fault.toFault = .config
            ("invalid value '" ++ t ++ "' for " ++ s.toVariable.name ++ ": " ++ reason)) ∧
    ∀ (env env' : Environment) (t : String) (n : Nat),
      env.Gives .port t → env'.Gives .database t → n ≤ 65535 →
        (env.numberIn .port = .ok (some n) ↔ env'.numberIn .database = .ok (some n)) := by
  refine ⟨?_, ?_, ?_⟩
  · intro env s t n hgives hnumber
    exact ⟨draft_of_number ((numberIn_eq_ok_iff hgives).mpr hnumber),
      s.number_set_change hnumber.2⟩
  · intro env s t hgives hnot
    obtain ⟨fault, reason, hfault, hreason, hmessage⟩ := exists_complaint hgives hnot
    exact ⟨fault, reason, hfault, fun hport => draft_of_fault hport hfault, hreason, hmessage⟩
  · intro env env' t n hport hdatabase hn
    have hread : env.numberIn .port = .ok (some n) ↔ Number 65535 t n := numberIn_eq_ok_iff hport
    have hread' : env'.numberIn .database = .ok (some n) ↔ Number 4294967295 t n :=
      numberIn_eq_ok_iff hdatabase
    have hlimit : n ≤ 4294967295 := le_trans hn (by decide)
    rw [hread, hread']
    exact and_congr_right fun _ => iff_of_true hn hlimit

/-- An environment of two numbers. -/
def numbered (port database : String) : Environment
  | .port => some port
  | .database => some database
  | _ => none

/-- Leading zeros do no harm, and letters behind digits that are too many are not seen. -/
theorem numbered_judged :
    (∃ d, (numbered "\t+000000000065535 " "").draft = .ok d ∧
      NumberSetting.port.number d = 65535) ∧
    (∃ fault, (numbered "+065535" " 4294967296th").draft = .error fault ∧
      fault.message = "invalid value ' 4294967296th' for REDIS_DB: " ++
        "number too large to fit in target type") ∧
    (numbered "" "+065535").numberIn .database = .ok (some 65535) := by
  obtain ⟨haccepted, hrefused, hshared⟩ := number_settings_judged
  refine ⟨?_, ?_, ?_⟩
  · have hnumber : Number 65535 "\t+000000000065535 " 65535 := Numeral.read_eq_ok_iff.mp (by decide)
    obtain ⟨hdraft, hport⟩ := haccepted (numbered "\t+000000000065535 " "") .port _ _
      ⟨rfl, '+', by decide, by decide⟩ hnumber
    have hrest : ((numbered "\t+000000000065535 " "").without .port).draft = .ok {} := rfl
    exact ⟨_, hdraft.trans (congrArg (Except.map _) hrest), hport _⟩
  · have hread : Numeral.read 4294967295 (Text.trim " 4294967296th".toList) = .error .tooLarge := by
      decide
    have hnot : ∀ n, ¬Number 4294967295 " 4294967296th" n := by
      intro n hnumber
      rw [Numeral.read_eq_ok_iff.mpr hnumber] at hread
      cases hread
    have hpasses : (numbered "+065535" " 4294967296th").Passes .port := by
      rintro value ⟨hvalue, _⟩
      obtain rfl := Option.some.inj hvalue
      exact ⟨65535, Numeral.read_eq_ok_iff.mp (by decide)⟩
    obtain ⟨fault, reason, _, hdraft, hreason, hmessage⟩ :=
      hrefused (numbered "+065535" " 4294967296th") .database _
        ⟨rfl, '4', by decide, by decide⟩ hnot
    refine ⟨fault, hdraft fun _ => hpasses, (Fault.config.inj hmessage).trans ?_⟩
    cases hreason with
    | tooLarge _ => decide
    | notDigit h => exact absurd (Numeral.read_eq_tooLarge_iff.mp hread) h
  · have hnumber : (numbered "+065535" "").numberIn .port = .ok (some 65535) := by decide
    exact (hshared _ _ "+065535" 65535 ⟨rfl, '0', by decide, by decide⟩
      ⟨rfl, '0', by decide, by decide⟩ (by decide)).mp hnumber

end Backlog.Environment
