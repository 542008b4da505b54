import Backlog.Proofs.Loading

/-!
# Configurations as environments

A configuration that was loaded has a host and a name space without blanks around them, a password
that is not blank, if it has any, and queues that come out of a list. That much is enough for each
setting to be read again as what was written.
-/

namespace Backlog

open Environment

/-- What a configuration is like when it was loaded. -/
structure Config.Exportable (c : Config) : Prop where
  host : Text.Trimmed c.store.host.toList
  host_ne_empty : c.store.host ≠ ""
  password : ∀ value, c.store.password = some value →
    ∃ ch ∈ value.toList, Text.isBlank ch = false
  metricNamespace : Text.Trimmed c.metricNamespace.toList
  metricNamespace_ne_empty : c.metricNamespace ≠ ""
  listable : ∀ q ∈ c.queues, q.Listable
  distinguishable : Queue.Distinguishable c.queues

section Loaded

variable {env : Environment} {c : Config}

/-- Whatever the settings were, what they describe can be written. -/
theorem Environment.Describes.exportable (h : env.Describes c) : c.Exportable := by
  obtain ⟨host, hhost, heq⟩ := h.host
  constructor
  · rw [heq]
    exact Text.trimmed_toList host
  · rw [heq]
    exact hhost.trimmed_ne_empty
  · intro value hvalue
    exact ((h.password value).mp hvalue).2
  · rcases h.metricNamespace with ⟨_, hdefault⟩ | ⟨value, _, hvalue⟩
    · rw [hdefault]
      exact Text.Trimmed.of_trim_eq rfl
    · rw [hvalue]
      exact Text.trimmed_toList value
  · rcases h.metricNamespace with ⟨_, hdefault⟩ | ⟨value, hgives, hvalue⟩
    · rw [hdefault]
      decide
    · rw [hvalue]
      exact hgives.trimmed_ne_empty
  · rcases h.queues with ⟨_, hdefault⟩ | ⟨value, _, hlists⟩
    · rw [hdefault]
      exact Queue.lists_defaults.listable
    · exact hlists.listable
  · exact h.distinguishable

end Loaded

/-! ### Written settings -/

section Written

variable {env : Environment} {v : Variable}

lemma not_isBlank_of_isDigit {c : Char} (h : c.isDigit = true) : Text.isBlank c = false := by
  rw [Char.isDigit_iff_toNat] at h
  have hzero : '0'.toNat = 48 := rfl
  have hnine : '9'.toNat = 57 := rfl
  simp [Text.isBlank, Text.blank, CharSet.contains]
  omega

lemma write_trimmed (n : Nat) : Text.Trimmed (Numeral.write n) :=
  Text.trimmed_of_not_isBlank fun _ h => not_isBlank_of_isDigit (Numeral.isDigit_of_mem_write h)

lemma says_number {limit n : Nat} {default : Nat} (hv : env v = some (Numeral.text n))
    (hn : n ≤ limit) : env.Says v (Number limit) default n := by
  have htext : (Numeral.text n).toList = Numeral.write n := String.toList_ofList
  have htrimmed : Text.Trimmed (Numeral.text n).toList := htext ▸ write_trimmed n
  refine Or.inr ⟨Numeral.text n, gives_of_trimmed hv htrimmed ?_, ?_, hn⟩
  · intro hempty
    rw [hempty] at htext
    exact Numeral.write_ne_nil n htext.symm
  · rw [htrimmed.trim_eq, htext]
    exact Numeral.denotes_write n

lemma says_switch {b default : Bool} (hv : env v = some (Inspect.bool b)) :
    env.Says v Switch default b := by
  have htrimmed : Text.Trimmed (Inspect.bool b).toList := by
    cases b <;> exact Text.Trimmed.of_trim_eq rfl
  refine Or.inr ⟨Inspect.bool b, gives_of_trimmed hv htrimmed ?_, Inspect.bool b, ?_, ?_⟩
  · cases b <;> decide
  · cases b <;> decide
  · rw [htrimmed.trim_eq]
    cases b <;> decide

lemma says_queues {queues default : List Queue} (hv : env v = some (Queue.writeList queues))
    (hlistable : ∀ q ∈ queues, q.Listable) (hne : queues ≠ []) :
    env.Says v Queue.Lists default queues := by
  have hgives : env.Gives v (Queue.writeList queues) :=
    ⟨hv, '=', Queue.equals_mem_writeList hne, by decide⟩
  exact Or.inr ⟨Queue.writeList queues, hgives, Queue.lists_writeList hlistable⟩

end Written

/-- Each setting of such a configuration says what was written into it. -/
theorem Config.Exportable.describes {c : Config} (h : c.Exportable) :
    c.toEnvironment.Describes c := by
  have hhost : c.toEnvironment.Gives .host c.store.host :=
    gives_of_trimmed rfl h.host h.host_ne_empty
  have hname : c.toEnvironment.Gives .metricNamespace c.metricNamespace :=
    gives_of_trimmed rfl h.metricNamespace h.metricNamespace_ne_empty
  constructor
  · exact ⟨c.store.host, hhost, h.host.trimmed_eq.symm⟩
  · exact says_number rfl (Nat.le_of_lt_succ c.store.port.toNat_lt)
  · intro value
    constructor
    · exact fun hvalue => ⟨hvalue, h.password value hvalue⟩
    · exact fun hgives => hgives.1
  · exact says_number rfl (Nat.le_of_lt_succ c.store.database.toNat_lt)
  · exact says_switch rfl
  · exact Or.inr ⟨c.metricNamespace, hname, h.metricNamespace.trimmed_eq.symm⟩
  · exact says_queues rfl h.listable h.distinguishable.some
  · exact h.distinguishable

/-- A configuration that was loaded is loaded again, in every field, from the environment that is
written of it. -/
theorem config_toEnvironment {env : Environment} {c : Config} (h : env.config = .ok c) :
    c.toEnvironment.config = .ok c :=
  config_eq_ok_iff.mpr (config_eq_ok_iff.mp h).exportable.describes

/-- Settings with blanks around them, a plus sign, and equals signs in the name of a metric. -/
def roundaboutEnvironment : Environment
  | .host => some "\tredis.internal "
  | .port => some " +06380"
  | .password => some " open sesame "
  | .tls => some "YES"
  | .queues => some " urls = Waiting=Urls ,, rag = Rag "
  | _ => none

def roundaboutConfig : Config where
  store := ⟨"redis.internal", 6380, some " open sesame ", 0, true⟩
  metricNamespace := "CustomRedisMetrics"
  queues := [⟨"urls", "Waiting=Urls"⟩, ⟨"rag", "Rag"⟩]

/-- What these settings are loaded as is written without their detours, and loaded alike. -/
theorem roundaboutConfig_reloaded : roundaboutEnvironment.config = .ok roundaboutConfig ∧
    roundaboutConfig.toEnvironment.config = .ok roundaboutConfig := by
  have h : roundaboutEnvironment.config = .ok roundaboutConfig := rfl
  exact ⟨h, config_toEnvironment h⟩

end Backlog
