import Backlog.Proofs.Consistency
import Mathlib.Data.List.Induction

/-!
# Drafts and what is wrong with them

Of the changes made to a draft the last of each setting counts, so changes of different settings
can be made in any order. A draft with a host, a namespace and queues that can be told apart becomes
the configuration that says the same; any other is refused for the first thing that is wrong with
it. The check of the queues carries the keys and metrics of those that it has passed, and that is
all it has to know of them.
-/

namespace Backlog

namespace Draft

/-! ### Changes -/

/-- The setting that a change is about. -/
def Change.setting : Change → Variable
  | .host _ => .host
  | .port _ => .port
  | .password _ => .password
  | .database _ => .database
  | .tls _ => .tls
  | .metricNamespace _ => .metricNamespace
  | .queues _ => .queues

/-- Two drafts that have the same in one setting. -/
def SameIn : Variable → Draft → Draft → Prop
  | .host, d, d' => d.host = d'.host
  | .port, d, d' => d.port = d'.port
  | .password, d, d' => d.password = d'.password
  | .database, d, d' => d.database = d'.database
  | .tls, d, d' => d.tls = d'.tls
  | .metricNamespace, d, d' => d.metricNamespace = d'.metricNamespace
  | .queues, d, d' => d.queues = d'.queues

/-- A draft has the value that a change gives, in the setting that the change is about. -/
def Has (d : Draft) : Change → Prop
  | .host value => d.host = some value
  | .port value => d.port = value
  | .password value => d.password = some value
  | .database value => d.database = value
  | .tls value => d.tls = value
  | .metricNamespace value => d.metricNamespace = value
  | .queues value => d.queues = value

/-- The last change of a setting. -/
def lastChange? (v : Variable) (changes : List Change) : Option Change :=
  (changes.filter fun a => decide (a.setting = v)).getLast?

variable {d d' d'' : Draft} {v : Variable} {a : Change}

lemma SameIn.refl (v : Variable) (d : Draft) : SameIn v d d := by
  cases v <;> rfl

lemma SameIn.symm (h : SameIn v d d') : SameIn v d' d := by
  cases v <;> exact Eq.symm h

lemma SameIn.trans (h : SameIn v d d') (h' : SameIn v d' d'') : SameIn v d d'' := by
  cases v <;> exact Eq.trans h h'

lemma eq_of_sameIn (h : ∀ v, SameIn v d d') : d = d' := by
  obtain ⟨host, port, password, database, tls, metricNamespace, queues⟩ := d
  obtain rfl : host = d'.host := h .host
  obtain rfl : port = d'.port := h .port
  obtain rfl : password = d'.password := h .password
  obtain rfl : database = d'.database := h .database
  obtain rfl : tls = d'.tls := h .tls
  obtain rfl : metricNamespace = d'.metricNamespace := h .metricNamespace
  obtain rfl : queues = d'.queues := h .queues
  rfl

/-- After a change its setting is as it says, whatever was there. -/
lemma has_set (d : Draft) (a : Change) : (d.set a).Has a := by
  cases a <;> rfl

lemma SameIn.has_iff (h : SameIn a.setting d d') : d.Has a ↔ d'.Has a := by
  cases a <;> exact Eq.congr_left h

lemma sameIn_of_has (h : d.Has a) (h' : d'.Has a) : SameIn a.setting d d' := by
  cases a <;> exact Eq.trans h (Eq.symm h')

/-- A change leaves the other settings alone. -/
lemma sameIn_set_of_ne (d : Draft) (h : a.setting ≠ v) : SameIn v (d.set a) d := by
  cases a <;> cases v <;> first | rfl | exact absurd rfl h

lemma setAll_concat (d : Draft) (changes : List Change) (a : Change) :
    d.setAll (changes ++ [a]) = (d.setAll changes).set a := by
  rw [setAll, List.foldl_append]
  rfl

lemma setting_of_lastChange? {changes : List Change} (h : lastChange? v changes = some a) :
    a.setting = v := of_decide_eq_true (List.mem_filter.mp (List.mem_of_getLast? h)).2

lemma lastChange?_concat_self (changes : List Change) (a : Change) :
    lastChange? a.setting (changes ++ [a]) = some a := by
  simp [lastChange?]

lemma lastChange?_concat_of_ne (changes : List Change) (h : a.setting ≠ v) :
    lastChange? v (changes ++ [a]) = lastChange? v changes := by
  simp [lastChange?, h]

/-- What has not been changed is as it was. -/
theorem sameIn_setAll (start : Draft) (changes : List Change) (h : lastChange? v changes = none) :
    SameIn v (start.setAll changes) start := by
  induction changes using List.reverseRecOn with
  | nil => exact SameIn.refl v start
  | append_singleton changes a ih =>
    have ha : a.setting ≠ v := by
      rintro rfl
      rw [lastChange?_concat_self] at h
      cases h
    rw [lastChange?_concat_of_ne changes ha] at h
    rw [setAll_concat]
    exact (sameIn_set_of_ne (start.setAll changes) ha).trans (ih h)

/-- What has been changed is as the last change of it says. -/
theorem has_setAll (start : Draft) (changes : List Change) (h : lastChange? v changes = some a) :
    (start.setAll changes).Has a := by
  induction changes using List.reverseRecOn with
  | nil => cases h
  | append_singleton changes b ih =>
    rw [setAll_concat]
    by_cases hb : b.setting = v
    · subst hb
      rw [lastChange?_concat_self] at h
      obtain rfl := Option.some.inj h
      exact has_set (start.setAll changes) b
    · rw [lastChange?_concat_of_ne changes hb] at h
      have ha : a.setting = v := setting_of_lastChange? h
      exact (sameIn_set_of_ne (start.setAll changes) (ha ▸ hb)).has_iff.mpr (ih h)

theorem setAll_congr (start : Draft) {changes changes' : List Change}
    (h : ∀ v, lastChange? v changes = lastChange? v changes') :
    start.setAll changes = start.setAll changes' := by
  apply eq_of_sameIn
  intro v
  cases hlast : lastChange? v changes with
  | none =>
    have hlast' : lastChange? v changes' = none := (h v).symm.trans hlast
    exact (sameIn_setAll start changes hlast).trans (sameIn_setAll start changes' hlast').symm
  | some a =>
    have hlast' : lastChange? v changes' = some a := (h v).symm.trans hlast
    have hv : a.setting = v := setting_of_lastChange? hlast
    rw [← hv]
    exact sameIn_of_has (has_setAll start changes hlast) (has_setAll start changes' hlast')

/-- Changes of two settings trade places. -/
lemma lastChange?_swap {b : Change} (h : a.setting ≠ b.setting) (before after : List Change)
    (v : Variable) :
    lastChange? v (before ++ a :: b :: after) = lastChange? v (before ++ b :: a :: after) := by
  have hone : ¬(a.setting = v ∧ b.setting = v) := fun hboth => h (hboth.1.trans hboth.2.symm)
  by_cases ha : a.setting = v
  · have hb : b.setting ≠ v := fun hb => hone ⟨ha, hb⟩
    simp [lastChange?, ha, hb]
  · simp [lastChange?, ha]

/-! ### Faults of queues -/

/-- What is wrong with a queue that comes after others. -/
inductive Spoils (before : List Queue) (q : Queue) : ConfigFault → Prop where
  | emptyPart (h : q.key = "" ∨ q.metric = "") : Spoils before q .emptyPart
  | repeatedKey (hparts : q.key ≠ "" ∧ q.metric ≠ "") (h : ∃ p ∈ before, p.key = q.key) :
      Spoils before q (.repeatedKey q.key)
  | repeatedMetric (hparts : q.key ≠ "" ∧ q.metric ≠ "") (hkey : ∀ p ∈ before, p.key ≠ q.key)
      (h : ∃ p ∈ before, p.metric = q.metric) : Spoils before q (.repeatedMetric q.metric)

/-- Something is wrong with the queue at a place, and with none before it. -/
structure FirstSpoiled (queues : List Queue) (i : Nat) (fault : ConfigFault) : Prop where
  spoils : ∃ q, queues[i]? = some q ∧ Spoils (queues.take i) q fault
  first : ∀ j < i, ∀ q, queues[j]? = some q → ∀ f, ¬Spoils (queues.take j) q f

section Scan

variable {passed : List Queue} {q : Queue} {fault : ConfigFault}

/-- The order of the queues before does not matter. -/
lemma Spoils.of_mem_iff {passed' : List Queue} (h : Spoils passed q fault)
    (hmem : ∀ p, p ∈ passed ↔ p ∈ passed') : Spoils passed' q fault := by
  cases h with
  | emptyPart h => exact .emptyPart h
  | repeatedKey hparts h =>
    obtain ⟨p, hp, heq⟩ := h
    exact .repeatedKey hparts ⟨p, (hmem p).mp hp, heq⟩
  | repeatedMetric hparts hkey h =>
    obtain ⟨p, hp, heq⟩ := h
    exact .repeatedMetric hparts (fun r hr => hkey r ((hmem r).mpr hr)) ⟨p, (hmem p).mp hp, heq⟩

lemma queueFault?_of_spoils (h : Spoils passed q fault) (rest : List Queue) :
    queueFault? (passed.map Queue.key) (passed.map Queue.metric) (q :: rest) = some fault := by
  cases h with
  | emptyPart h => rw [queueFault?, if_pos h]
  | repeatedKey hparts h => simp [queueFault?, hparts, h]
  | repeatedMetric hparts hkey h =>
    have hnot : q.key ∉ passed.map Queue.key := by simpa using hkey
    simp [queueFault?, hparts, hnot, h]

lemma queueFault?_of_not_spoils (h : ∀ f, ¬Spoils passed q f) (rest : List Queue) :
    queueFault? (passed.map Queue.key) (passed.map Queue.metric) (q :: rest) =
      queueFault? ((q :: passed).map Queue.key) ((q :: passed).map Queue.metric) rest := by
  have hempty : ¬(q.key = "" ∨ q.metric = "") := fun hempty => h _ (.emptyPart hempty)
  have hparts := not_or.mp hempty
  have hkey : ∀ p ∈ passed, p.key ≠ q.key :=
    fun p hp heq => h _ (.repeatedKey hparts ⟨p, hp, heq⟩)
  have hmetric : ∀ p ∈ passed, p.metric ≠ q.metric :=
    fun p hp heq => h _ (.repeatedMetric hparts hkey ⟨p, hp, heq⟩)
  rw [queueFault?, if_neg hempty, if_neg (by simpa using hkey), if_neg (by simpa using hmetric)]
  rfl

lemma Spoils.unique {f : ConfigFault} (h : Spoils passed q fault) (h' : Spoils passed q f) :
    fault = f := by
  have heq := queueFault?_of_spoils h []
  rw [queueFault?_of_spoils h' []] at heq
  exact (Option.some.inj heq).symm

/-- Something is wrong with the queue at a place of a list, after those that were passed. -/
def SpoiledAt (passed queues : List Queue) (i : Nat) (fault : ConfigFault) : Prop :=
  ∃ q, queues[i]? = some q ∧ Spoils (passed ++ queues.take i) q fault

lemma spoiledAt_zero {rest : List Queue} :
    SpoiledAt passed (q :: rest) 0 fault ↔ Spoils passed q fault := by
  simp [SpoiledAt]

/-- The first queue of a list can be passed. -/
lemma spoiledAt_succ {rest : List Queue} {i : Nat} :
    SpoiledAt passed (q :: rest) (i + 1) fault ↔ SpoiledAt (q :: passed) rest i fault := by
  have hmem : ∀ p, p ∈ passed ++ (q :: rest).take (i + 1) ↔ p ∈ q :: passed ++ rest.take i := by
    intro p
    simp only [List.cons_append, List.mem_cons, List.mem_append, List.take_succ_cons]
    exact or_left_comm
  constructor
  · rintro ⟨p, hp, h⟩
    exact ⟨p, hp, h.of_mem_iff hmem⟩
  · rintro ⟨p, hp, h⟩
    exact ⟨p, hp, h.of_mem_iff fun r => (hmem r).symm⟩

/-- The scan stops at the first queue with which something is wrong. -/
theorem queueFault?_eq_some_iff (passed : List Queue) {queues : List Queue} :
    queueFault? (passed.map Queue.key) (passed.map Queue.metric) queues = some fault ↔
      ∃ i, SpoiledAt passed queues i fault ∧ ∀ j < i, ∀ f, ¬SpoiledAt passed queues j f := by
  induction queues generalizing passed with
  | nil => simp [queueFault?, SpoiledAt]
  | cons q rest ih =>
    by_cases hq : ∃ f, Spoils passed q f
    · obtain ⟨f, hf⟩ := hq
      rw [queueFault?_of_spoils hf]
      constructor
      · intro heq
        obtain rfl := Option.some.inj heq
        exact ⟨0, spoiledAt_zero.mpr hf, by simp⟩
      · rintro ⟨i, hspoiled, hfirst⟩
        cases i with
        | zero => rw [hf.unique (spoiledAt_zero.mp hspoiled)]
        | succ i => exact absurd (spoiledAt_zero.mpr hf) (hfirst 0 (Nat.succ_pos i) f)
    · have hnot := not_exists.mp hq
      rw [queueFault?_of_not_spoils hnot, ih]
      constructor
      · rintro ⟨i, hspoiled, hfirst⟩
        refine ⟨i + 1, spoiledAt_succ.mpr hspoiled, ?_⟩
        intro j hj f h
        cases j with
        | zero => exact hnot f (spoiledAt_zero.mp h)
        | succ j => exact hfirst j (Nat.lt_of_succ_lt_succ hj) f (spoiledAt_succ.mp h)
      · rintro ⟨i, hspoiled, hfirst⟩
        cases i with
        | zero => exact absurd (spoiledAt_zero.mp hspoiled) (hnot fault)
        | succ i =>
          refine ⟨i, spoiledAt_succ.mp hspoiled, ?_⟩
          exact fun j hj f h => hfirst (j + 1) (Nat.succ_lt_succ hj) f (spoiledAt_succ.mpr h)

lemma queueFault?_iff_firstSpoiled {queues : List Queue} :
    queueFault? [] [] queues = some fault ↔ ∃ i, FirstSpoiled queues i fault := by
  have h : queueFault? [] [] queues = some fault ↔ _ := queueFault?_eq_some_iff []
  rw [h]
  apply exists_congr
  intro i
  constructor
  · rintro ⟨hspoiled, hfirst⟩
    exact ⟨hspoiled, fun j hj q hq f hspoils => hfirst j hj f ⟨q, hq, hspoils⟩⟩
  · rintro ⟨hspoils, hfirst⟩
    refine ⟨hspoils, ?_⟩
    rintro j hj f ⟨q, hq, h⟩
    exact hfirst j hj q hq f h

end Scan

/-! ### Building -/

/-- A draft has a host if one is set that is not empty. -/
def Hosted (d : Draft) : Prop := ∃ host, d.host = some host ∧ host ≠ ""

/-- The first thing that is wrong with a draft. -/
inductive Blames (d : Draft) : ConfigFault → Prop where
  | host (h : ¬d.Hosted) : Blames d .noHost
  | metricNamespace (hhost : d.Hosted) (h : d.metricNamespace = "") : Blames d .noNamespace
  | noQueues (hhost : d.Hosted) (hnamespace : d.metricNamespace ≠ "") (h : d.queues = []) :
      Blames d .noQueues
  | queue {i : Nat} {fault : ConfigFault} (hhost : d.Hosted) (hnamespace : d.metricNamespace ≠ "")
      (h : FirstSpoiled d.queues i fault) : Blames d fault

/-- A configuration that says what a draft says. -/
structure Settles (d : Draft) (c : Config) : Prop where
  host : d.host = some c.store.host
  port : d.port = c.store.port
  password : d.password = c.store.password
  database : d.database = c.store.database
  tls : d.tls = c.store.tls
  metricNamespace : d.metricNamespace = c.metricNamespace
  queues : d.queues = c.queues

variable {fault : ConfigFault}

lemma build_of_not_hosted (h : ¬d.Hosted) : d.build = .error .noHost := by
  cases hhost : d.host with
  | none => exact build_of_no_host hhost
  | some host =>
    have hempty : host = "" := by
      by_contra hne
      exact h ⟨host, hhost, hne⟩
    rw [build, hhost]
    exact if_pos hempty

lemma build_of_no_namespace (hhost : d.Hosted) (h : d.metricNamespace = "") :
    d.build = .error .noNamespace := by
  obtain ⟨host, hsome, hne⟩ := hhost
  rw [build, hsome]
  dsimp only
  rw [if_neg hne, if_pos h]

lemma listFault?_eq_some_iff {queues : List Queue} : listFault? queues = some fault ↔
    (queues = [] ∧ fault = .noQueues) ∨ ∃ i, FirstSpoiled queues i fault := by
  rw [listFault?, ← queueFault?_iff_firstSpoiled]
  by_cases hqueues : queues = []
  · subst hqueues
    simp [queueFault?, eq_comm]
  · simp [hqueues]

section Hosted

variable (hhost : d.Hosted) (hnamespace : d.metricNamespace ≠ "")

include hhost hnamespace

lemma build_of_listFault (h : listFault? d.queues = some fault) : d.build = .error fault := by
  obtain ⟨host, hsome, hne⟩ := hhost
  rw [build_of_host hsome hne hnamespace, h]

lemma exists_build (h : Queue.Distinguishable d.queues) : ∃ c, d.build = .ok c ∧ d.Settles c := by
  obtain ⟨host, hsome, hne⟩ := hhost
  rw [build_of_host hsome hne hnamespace, listFault?_eq_none_iff.mpr h]
  exact ⟨_, rfl, hsome, rfl, rfl, rfl, rfl, rfl, rfl⟩

end Hosted

/-- What a draft must have to become a configuration. -/
structure Sound (d : Draft) : Prop where
  host : d.Hosted
  metricNamespace : d.metricNamespace ≠ ""
  queues : Queue.Distinguishable d.queues

/-- A draft that is blamed for something is refused for that. -/
lemma Blames.build_eq (h : d.Blames fault) : d.build = .error fault := by
  cases h with
  | host h => exact build_of_not_hosted h
  | metricNamespace hhost h => exact build_of_no_namespace hhost h
  | noQueues hhost hnamespace h =>
    exact build_of_listFault hhost hnamespace (listFault?_eq_some_iff.mpr (Or.inl ⟨h, rfl⟩))
  | queue hhost hnamespace h =>
    exact build_of_listFault hhost hnamespace (listFault?_eq_some_iff.mpr (Or.inr ⟨_, h⟩))

/-- A draft that is not sound is to blame for something. -/
lemma exists_blames_of_not_sound (h : ¬d.Sound) : ∃ fault, d.Blames fault := by
  by_cases hhost : d.Hosted
  · by_cases hnamespace : d.metricNamespace = ""
    · exact ⟨_, .metricNamespace hhost hnamespace⟩
    · cases hlist : listFault? d.queues with
      | none => exact absurd ⟨hhost, hnamespace, listFault?_eq_none_iff.mp hlist⟩ h
      | some fault =>
        rcases listFault?_eq_some_iff.mp hlist with ⟨hqueues, rfl⟩ | ⟨i, hfirst⟩
        · exact ⟨_, .noQueues hhost hnamespace hqueues⟩
        · exact ⟨_, .queue hhost hnamespace hfirst⟩
  · exact ⟨_, .host hhost⟩

/-- A draft is built if and only if it is sound, … -/
theorem build_succeeds_iff : (∃ c, d.build = .ok c) ↔ d.Sound := by
  constructor
  · rintro ⟨c, hc⟩
    by_contra hnot
    obtain ⟨fault, hblames⟩ := exists_blames_of_not_sound hnot
    rw [hblames.build_eq] at hc
    cases hc
  · intro h
    obtain ⟨c, hc, _⟩ := exists_build h.host h.metricNamespace h.queues
    exact ⟨c, hc⟩

/-- … as the configuration that says the same, … -/
theorem settles_of_build {c : Config} (h : d.build = .ok c) : d.Settles c := by
  have hsound := build_succeeds_iff.mp ⟨c, h⟩
  obtain ⟨c', hc', hsettles⟩ := exists_build hsound.host hsound.metricNamespace hsound.queues
  rw [h] at hc'
  obtain rfl := Except.ok.inj hc'
  exact hsettles

/-- … and refused for what it is to blame for otherwise. -/
theorem build_eq_error_iff : d.build = .error fault ↔ d.Blames fault := by
  constructor
  · intro h
    have hnot : ¬d.Sound := by
      intro hsound
      obtain ⟨c, hc⟩ := build_succeeds_iff.mpr hsound
      rw [h] at hc
      cases hc
    obtain ⟨f, hblames⟩ := exists_blames_of_not_sound hnot
    rw [hblames.build_eq] at h
    obtain rfl := Except.error.inj h
    exact hblames
  · exact Blames.build_eq

/-- A draft that began with the defaults or with what an environment says, or in any other way, and
any changes made to it. Each setting has the value that the last change of it gives, or stays as it
was; and with that it is decided whether the draft is built and what is said about it: the fault is
one of configuration and quotes the key or the metric that is repeated. -/
theorem built_or_blamed (start : Draft) (changes : List Change) :
    (∀ v a, lastChange? v changes = some a → (start.setAll changes).Has a) ∧
    (∀ v, lastChange? v changes = none → SameIn v (start.setAll changes) start) ∧
    (∀ changes', (∀ v, lastChange? v changes = lastChange? v changes') →
      start.setAll changes = start.setAll changes') ∧
    (∀ before a b after, changes = before ++ a :: b :: after → a.setting ≠ b.setting →
      start.setAll changes = start.setAll (before ++ b :: a :: after)) ∧
    ((∃ c, (start.setAll changes).build = .ok c) ↔ (start.setAll changes).Sound) ∧
    (∀ c, (start.setAll changes).build = .ok c → (start.setAll changes).Settles c) ∧
    (∀ fault, (start.setAll changes).build = .error fault ↔
      (start.setAll changes).Blames fault) ∧
    (∀ fault, (start.setAll changes).build = .error fault → fault.toFault.kind = "config") ∧
    (∀ key, (ConfigFault.repeatedKey key).toFault =
      .config ("queue '" ++ key ++ "' is listed more than once")) ∧
    ∀ metric, (ConfigFault.repeatedMetric metric).toFault =
      .config ("metric name '" ++ metric ++ "' is used by more than one queue") := by
  refine ⟨fun _ _ h => has_setAll start changes h, fun _ h => sameIn_setAll start changes h,
    fun _ h => setAll_congr start h, ?_, build_succeeds_iff, fun _ => settles_of_build,
    fun _ => build_eq_error_iff, fun _ _ => rfl, fun _ => rfl, fun _ => rfl⟩
  rintro before a b after rfl h
  exact setAll_congr start (lastChange?_swap h before after)

/-- Where a queue repeats a key and a metric, the key is to blame. -/
example : ({ host := some "h", queues := [⟨"a", "X"⟩, ⟨"b", "Y"⟩, ⟨"a", "Y"⟩] } : Draft).build =
    .error (.repeatedKey "a") := by
  decide +kernel

end Draft

end Backlog
