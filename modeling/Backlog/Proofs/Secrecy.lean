import Backlog.Program
import Backlog.Proofs.Lifecycle
import Backlog.Proofs.Loading
import Backlog.Rehearsal

/-!
# The password stays secret

Two runs that differ in nothing but the password cannot be told apart from outside: not by what is
printed of the configuration, not by the journal of an invocation or its answer, and not by the
output and the log of the program. Only the store is given the password; it is assumed to behave
alike whatever it is. Whether there is a password does show, in each of these places.
-/

namespace Backlog

/-- A configuration with a password in the place of what it has. -/
def Config.withPassword (c : Config) (password : String) : Config :=
  { c with store := { c.store with password := some password } }

/-- A store that does the same whatever the password is. -/
def Store.Blind (store : Store) : Prop :=
  ∀ (c : Config) (p p' : String), store (c.withPassword p) = store (c.withPassword p')

/-- Two environments with a password each, neither of them blank, that agree on all other
settings. -/
structure Environment.Apart (env env' : Environment) (p p' : String) : Prop where
  gives : env.Gives .password p
  gives' : env'.Gives .password p'
  others : ∀ v, v ≠ .password → env v = env' v

/-! ### Configurations -/

namespace Config

variable (c : Config) (p p' : String)

lemma inspect_withPassword : (c.withPassword p).inspect = (c.withPassword p').inspect := rfl

lemma toJson_withPassword : (c.withPassword p).toJson = (c.withPassword p').toJson := rfl

end Config

namespace Invocation

variable {store : Store} (clock : Clock) (publisher : Publisher)

/-- Once connected, an invocation does not look at the password at all. -/
lemma work_withPassword (c : Config) (p : String) (visit : Visit) :
    work (c.withPassword p) visit clock publisher = work c visit clock publisher := rfl

lemma run_withPassword (hblind : store.Blind) (c : Config) (p p' : String) :
    run (c.withPassword p) store clock publisher =
      run (c.withPassword p') store clock publisher := by
  simp only [run, hblind c p p', work_withPassword]
  rfl

end Invocation

/-! ### Drafts -/

namespace Draft

variable (d : Draft) (p p' : String)

/-- No check looks at the password. -/
lemma build_set_password : (d.set (.password p)).build = d.build.map (·.withPassword p) := by
  rw [set, build, build]
  dsimp only
  cases d.host with
  | none => rfl
  | some host =>
    simp only [apply_ite (Except.map _)]
    cases queueFault? [] [] d.queues <;> rfl

end Draft

namespace Invocation

variable {store : Store} (clock : Clock) (publisher : Publisher)

lemma ofDraft_set_password (hblind : store.Blind) (d : Draft) (p p' : String) :
    ofDraft (d.set (.password p)) store clock publisher =
      ofDraft (d.set (.password p')) store clock publisher := by
  rw [ofDraft, ofDraft, Draft.build_set_password, Draft.build_set_password]
  cases d.build with
  | error fault => rfl
  | ok c => exact run_withPassword clock publisher hblind c p p'

end Invocation

/-! ### Environments -/

namespace Environment.Apart

variable {env env' : Environment} {p p' : String} (h : env.Apart env' p p')
include h

lemma get?_eq {v : Variable} (hv : v ≠ .password) : env.get? v = env'.get? v := by
  rw [get?, get?, h.others v hv]

/-- The four settings that can be refused are read without a look at the password. -/
lemma draft_eq : env'.draft = env.draft.map (·.set (.password p')) := by
  have hport : env'.number? .port 65535 = env.number? .port 65535 := by
    rw [number?, number?, h.get?_eq (by decide)]
  have hdatabase : env'.number? .database 4294967295 = env.number? .database 4294967295 := by
    rw [number?, number?, h.get?_eq (by decide)]
  have htls : env'.switch? .tls = env.switch? .tls := by
    rw [switch?, switch?, h.get?_eq (by decide)]
  have hqueues : env'.queues? = env.queues? := by
    rw [queues?, queues?, h.get?_eq (by decide)]
  have hpassword : env'.get? .password = some p' := get?_eq_some_iff.mpr h.gives'
  have hhost : env'.get? .host = env.get? .host := (h.get?_eq (by decide)).symm
  have hname : env'.get? .metricNamespace = env.get? .metricNamespace :=
    (h.get?_eq (by decide)).symm
  rw [draft, draft, hport, hdatabase, htls, hqueues, hpassword, hhost, hname]
  cases env.number? .port 65535 with
  | error fault => rfl
  | ok port =>
    cases env.number? .database 4294967295 with
    | error fault => rfl
    | ok database =>
      cases env.switch? .tls with
      | error fault => rfl
      | ok tls => cases env.queues? <;> rfl

lemma config_eq : env'.config = env.config.map (·.withPassword p') := by
  rw [config, config, h.draft_eq]
  cases env.draft with
  | error fault => rfl
  | ok d => exact d.build_set_password p'

omit h in
lemma self (hgives : env.Gives .password p) : env.Apart env p p := ⟨hgives, hgives, fun _ _ => rfl⟩

/-- Both are read alike: with the same fault, or but for the password. -/
theorem draft_alike : (∃ fault, env.draft = .error fault ∧ env'.draft = .error fault) ∨
    ∃ d : Draft, env.draft = .ok (d.set (.password p)) ∧
      env'.draft = .ok (d.set (.password p')) := by
  have hself := (self h.gives).draft_eq
  have hother := h.draft_eq
  cases hd : env.draft with
  | error fault =>
    rw [hd] at hother
    exact Or.inl ⟨fault, rfl, hother⟩
  | ok d =>
    rw [hd] at hself hother
    exact Or.inr ⟨d, hself, hother⟩

theorem config_alike : (∃ fault, env.config = .error fault ∧ env'.config = .error fault) ∨
    ∃ c : Config, env.config = .ok (c.withPassword p) ∧
      env'.config = .ok (c.withPassword p') := by
  have hself := (self h.gives).config_eq
  have hother := h.config_eq
  cases hc : env.config with
  | error fault =>
    rw [hc] at hother
    exact Or.inl ⟨fault, rfl, hother⟩
  | ok c =>
    rw [hc] at hself hother
    exact Or.inr ⟨c, hself, hother⟩

variable (clock : Clock) (publisher : Publisher)

lemma ofEnvironment_eq {store : Store} (hblind : store.Blind) :
    Invocation.ofEnvironment env store clock publisher =
      Invocation.ofEnvironment env' store clock publisher := by
  rw [Invocation.ofEnvironment_eq, Invocation.ofEnvironment_eq]
  rcases h.config_alike with ⟨fault, hc, hc'⟩ | ⟨c, hc, hc'⟩
  · rw [hc, hc']
  · rw [hc, hc']
    exact Invocation.run_withPassword clock publisher hblind c p p'

end Environment.Apart

/-! ### The program -/

/-- A process with a password in its variables. -/
def World.withPassword (w : World) (password : String) : World :=
  { w with env := fun name =>
      if name = Variable.password.name then some (Utf8.encode password) else w.env name }

/-- A report without the configuration that the store was given. -/
def Report.outward (r : Report) : Report := { r with visited := none }

namespace World

variable (w : World) (p p' : String)

lemma environment_withPassword :
    (w.withPassword p).environment .password = some p := by
  rw [environment, Environment.ofBytes, withPassword]
  exact Utf8.decode?_encode p

lemma environment_withPassword_of_ne {v : Variable} (hv : v ≠ .password) :
    (w.withPassword p).environment v = w.environment v := by
  have hname : v.name ≠ Variable.password.name := by
    cases v
    case password => exact absurd rfl hv
    all_goals decide
  rw [environment, environment, Environment.ofBytes, Environment.ofBytes, withPassword]
  dsimp only
  rw [if_neg hname]

lemma logFilter_withPassword : (w.withPassword p).logFilter = w.logFilter := by
  have hname : logVariable ≠ Variable.password.name := by decide
  rw [logFilter, logFilter, withPassword]
  dsimp only
  rw [if_neg hname]

lemma apart_withPassword (hp : Text.allBlank p = false) (hp' : Text.allBlank p' = false) :
    (w.withPassword p).environment.Apart (w.withPassword p').environment p p' where
  gives := ⟨environment_withPassword w p, by simpa [Text.allBlank] using hp⟩
  gives' := ⟨environment_withPassword w p', by simpa [Text.allBlank] using hp'⟩
  others v hv := by
    rw [environment_withPassword_of_ne w p hv, environment_withPassword_of_ne w p' hv]

end World

/-- What is seen of an invocation does not say which configuration it was of. -/
lemma Report.ofInvocation_outward (c c' : Config) (i : Invocation) :
    (Report.ofInvocation c i).outward = (Report.ofInvocation c' i).outward := by
  rw [ofInvocation, ofInvocation]
  cases i.result <;> rfl

namespace Program

lemma perform_withPassword {w : World} (hblind : w.store.Blind) {p p' : String}
    (hp : Text.allBlank p = false) (hp' : Text.allBlank p' = false) (line : CommandLine) :
    (perform (w.withPassword p) line).outward = (perform (w.withPassword p') line).outward := by
  have hconfig := (w.apart_withPassword p p' hp hp').config_alike
  cases line with
  | help topic => rfl
  | version => rfl
  | checkConfig =>
    rw [perform, perform]
    rcases hconfig with ⟨fault, hc, hc'⟩ | ⟨c, hc, hc'⟩
    · rw [hc, hc']
    · rw [hc, hc']
      dsimp only
      rw [Config.toJson_withPassword]
  | run dryRun trigger =>
    rw [perform, perform]
    rcases hconfig with ⟨fault, hc, hc'⟩ | ⟨c, hc, hc'⟩
    · rw [hc, hc']
    · rw [hc, hc']
      have hrun := Invocation.run_withPassword w.clock (w.publisher dryRun) hblind c p p'
      change (Report.ofInvocation _ (Invocation.run _ w.store w.clock (w.publisher dryRun))).outward =
        (Report.ofInvocation _ (Invocation.run _ w.store w.clock (w.publisher dryRun))).outward
      rw [hrun]
      exact Report.ofInvocation_outward _ _ _

lemma run_withPassword {w : World} (hblind : w.store.Blind) {p p' : String}
    (hp : Text.allBlank p = false) (hp' : Text.allBlank p' = false)
    (arguments : List CommandLine.Argument) :
    (run (w.withPassword p) arguments).outward = (run (w.withPassword p') arguments).outward := by
  rw [run, run]
  cases CommandLine.read arguments with
  | error fault => rfl
  | ok line => exact perform_withPassword hblind hp hp' line

end Program

/-- Where nothing but the password differs, everything that is printed, noted or answered is the
same, as long as the store behaves the same. Nothing is assumed of the store where no configuration
comes about. -/
theorem password_shows_nowhere {store : Store} (hblind : store.Blind) (clock : Clock) :
    (∀ (c : Config) (p p' : String) (publisher : Publisher),
      (c.withPassword p).inspect = (c.withPassword p').inspect ∧
      (c.withPassword p).toJson.text = (c.withPassword p').toJson.text ∧
      (c.withPassword p).toJson.indentedText = (c.withPassword p').toJson.indentedText ∧
      Invocation.run (c.withPassword p) store clock publisher =
        Invocation.run (c.withPassword p') store clock publisher) ∧
    (∀ (env env' : Environment) (p p' : String) (publisher : Publisher), env.Apart env' p p' →
      ((∃ fault, env.draft = .error fault ∧ env'.draft = .error fault) ∨
        ∃ d : Draft, env.draft = .ok (d.set (.password p)) ∧
          env'.draft = .ok (d.set (.password p')) ∧
          Invocation.ofDraft (d.set (.password p)) store clock publisher =
            Invocation.ofDraft (d.set (.password p')) store clock publisher) ∧
      ((∃ fault, env.config = .error fault ∧ env'.config = .error fault ∧
          ∀ store' : Store, Invocation.ofEnvironment env store' clock publisher =
            Invocation.ofEnvironment env' store' clock publisher) ∨
        ∃ c : Config, env.config = .ok (c.withPassword p) ∧
          env'.config = .ok (c.withPassword p')) ∧
      Invocation.ofEnvironment env store clock publisher =
        Invocation.ofEnvironment env' store clock publisher) ∧
    ∀ (w : World) (p p' : String) (arguments : List CommandLine.Argument), w.store = store →
      Text.allBlank p = false → Text.allBlank p' = false →
      let report := Program.run (w.withPassword p) arguments
      let report' := Program.run (w.withPassword p') arguments
      report.outward = report'.outward ∧
        report.log (w.withPassword p).logFilter = report'.log (w.withPassword p').logFilter := by
  refine ⟨?_, ?_, ?_⟩
  · intro c p p' publisher
    refine ⟨c.inspect_withPassword p p', ?_, ?_, ?_⟩
    · rw [c.toJson_withPassword p p']
    · rw [c.toJson_withPassword p p']
    · exact Invocation.run_withPassword clock publisher hblind c p p'
  · intro env env' p p' publisher h
    refine ⟨?_, ?_, h.ofEnvironment_eq clock publisher hblind⟩
    · rcases h.draft_alike with hfault | ⟨d, hd, hd'⟩
      · exact Or.inl hfault
      · exact Or.inr ⟨d, hd, hd', Invocation.ofDraft_set_password clock publisher hblind d p p'⟩
    · rcases h.config_alike with ⟨fault, hc, hc'⟩ | hok
      · refine Or.inl ⟨fault, hc, hc', fun store' => ?_⟩
        rw [Invocation.ofEnvironment_eq, Invocation.ofEnvironment_eq, hc, hc']
      · exact Or.inr hok
  · rintro w p p' arguments rfl hp hp' report report'
    have hsame : report.outward = report'.outward :=
      Program.run_withPassword hblind hp hp' arguments
    refine ⟨hsame, ?_⟩
    have hjournal : report.outward.journal = report'.outward.journal :=
      congrArg Report.journal hsame
    change report.journal = report'.journal at hjournal
    rw [Report.log, Report.log, hjournal, World.logFilter_withPassword,
      World.logFilter_withPassword]

/-- A store and a world around it that let a password in. -/
def guardedStore : Store := (Rehearsal.StandinStore.ofInstructions [.length "urls" 3]).store

def guardedEnvironment (password : String) : Environment
  | .host => some "redis.internal"
  | .password => some password
  | _ => none

def guardedWorld : World where
  env name := if name = Variable.host.name then some (Utf8.encode "redis.internal") else none
  store := guardedStore
  service _ := .accepted
  clock := Instant.ofMilliseconds

/-- Two passwords that cannot be told apart, neither by an invocation nor by the program. -/
theorem guarded_password_shows_nowhere :
    guardedStore.Blind ∧
    (guardedEnvironment "hunter2").Apart (guardedEnvironment "open sesame") "hunter2"
      "open sesame" ∧
    Invocation.ofEnvironment (guardedEnvironment "hunter2") guardedStore Instant.ofMilliseconds
        .dryRun =
      Invocation.ofEnvironment (guardedEnvironment "open sesame") guardedStore
        Instant.ofMilliseconds .dryRun ∧
    (Program.run (guardedWorld.withPassword "hunter2") [Utf8.encode "check-config"]).outward =
      (Program.run (guardedWorld.withPassword "open sesame")
        [Utf8.encode "check-config"]).outward := by
  have hblind : guardedStore.Blind := fun _ _ _ => rfl
  have hapart : (guardedEnvironment "hunter2").Apart (guardedEnvironment "open sesame") "hunter2"
      "open sesame" := by
    refine ⟨⟨rfl, 'h', by decide, by decide⟩, ⟨rfl, 'o', by decide, by decide⟩, ?_⟩
    intro v hv
    cases v
    case password => exact absurd rfl hv
    all_goals rfl
  obtain ⟨_, henvironments, hworlds⟩ := password_shows_nowhere hblind Instant.ofMilliseconds
  have hworld := hworlds guardedWorld "hunter2" "open sesame" [Utf8.encode "check-config"] rfl
    (by decide) (by decide)
  exact ⟨hblind, hapart, (henvironments _ _ _ _ .dryRun hapart).2.2, hworld.1⟩

end Backlog
