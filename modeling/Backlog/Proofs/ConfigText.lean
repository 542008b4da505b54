import Backlog.Proofs.Payload
import Backlog.Proofs.ProgramRun
import Backlog.Proofs.Secrecy

/-!
# The text of a configuration

A configuration is read back from its text in either layout, setting by setting, but for the
password: of that the text says only whether there is one. So two configurations have the same text
if and only if they are the same or become so when the password of one is replaced. What is printed
where a configuration is checked is such a text.
-/

namespace Backlog

/-! ### Settings from values -/

namespace Json

def bool? : Json → Option Bool
  | .bool value => some value
  | _ => none

/-- A whole number within a limit. -/
def whole? (limit : Nat) : Json → Option Nat
  | .number literal => (Numeral.read limit literal.toList).toOption
  | _ => none

def isNull : Json → Bool
  | .null => true
  | _ => false

lemma whole?_nat {limit n : Nat} (h : n ≤ limit) : (nat n).whole? limit = some n := by
  have hread : Numeral.read limit (Numeral.text n).toList = .ok n := by
    rw [Numeral.text, String.toList_ofList, Numeral.read_eq_ok_iff]
    exact ⟨Numeral.denotes_write n, h⟩
  rw [nat, whole?, hread]
  rfl

end Json

namespace Queue

def ofJson? (j : Json) : Option Queue := do
  let key ← (← j.member? "key").text?
  let metric ← (← j.member? "metric_name").text?
  return ⟨key, metric⟩

lemma ofJson?_toJson (q : Queue) : ofJson? q.toJson = some q := rfl

lemma fits_toJson (depth : Nat) (q : Queue) : Json.Fits (depth + 1) q.toJson := by
  apply Json.Fits.object
  rintro m (_ | ⟨_, _ | ⟨_, hm⟩⟩)
  · exact Json.Fits.string depth q.key
  · exact Json.Fits.string depth q.metric
  · cases hm

end Queue

lemma StoreConfig.fits_toJson (depth : Nat) (c : StoreConfig) :
    Json.Fits (depth + 1) c.toJson := by
  apply Json.Fits.object
  rintro m (_ | ⟨_, _ | ⟨_, _ | ⟨_, _ | ⟨_, _ | ⟨_, hm⟩⟩⟩⟩⟩)
  · exact Json.Fits.string depth c.host
  · exact Json.fits_nat depth c.port.toNat
  · cases c.password with
    | none => exact Json.Fits.null depth
    | some password => exact Json.Fits.string depth StoreConfig.redacted
  · exact Json.fits_nat depth c.database.toNat
  · exact Json.Fits.bool depth c.tls
  · cases hm

namespace Config

lemma fits_toJson (depth : Nat) (c : Config) : Json.Fits (depth + 3) c.toJson := by
  apply Json.Fits.object
  rintro m (_ | ⟨_, _ | ⟨_, _ | ⟨_, hm⟩⟩⟩)
  · exact c.store.fits_toJson (depth + 1)
  · exact Json.Fits.string _ c.metricNamespace
  · apply Json.Fits.array
    intro j hj
    obtain ⟨q, _, rfl⟩ := List.mem_map.mp hj
    exact q.fits_toJson depth
  · cases hm

/-! ### What is shown -/

/-- All there is to a configuration but its password, of which only whether there is one. -/
structure Shown where
  host : String
  port : UInt16
  hasPassword : Bool
  database : UInt32
  tls : Bool
  metricNamespace : String
  queues : List Queue
deriving DecidableEq

def shown (c : Config) : Shown where
  host := c.store.host
  port := c.store.port
  hasPassword := c.store.password.isSome
  database := c.store.database
  tls := c.store.tls
  metricNamespace := c.metricNamespace
  queues := c.queues

namespace Shown

def ofJson? (j : Json) : Option Shown := do
  let store ← j.member? "store"
  let host ← (← store.member? "host").text?
  let port ← (← store.member? "port").whole? 65535
  let password ← store.member? "password"
  let database ← (← store.member? "database").whole? 4294967295
  let tls ← (← store.member? "tls").bool?
  let metricNamespace ← (← j.member? "namespace").text?
  let queues ← (← (← j.member? "queues").items?).mapM Queue.ofJson?
  return ⟨host, .ofNat port, !password.isNull, .ofNat database, tls, metricNamespace, queues⟩

/-- What the text of a configuration shows. -/
def read? (text : String) : Option Shown := do ofJson? (← (Json.read text).toOption)

lemma ofJson?_toJson (c : Config) : ofJson? c.toJson = some c.shown := by
  have hport : (Json.nat c.store.port.toNat).whole? 65535 = some c.store.port.toNat :=
    Json.whole?_nat (Nat.le_of_lt_succ c.store.port.toNat_lt)
  have hdatabase : (Json.nat c.store.database.toNat).whole? 4294967295 =
      some c.store.database.toNat :=
    Json.whole?_nat (Nat.le_of_lt_succ c.store.database.toNat_lt)
  have hpassword : (!(Json.ofOption (fun _ => Json.string StoreConfig.redacted)
      c.store.password).isNull) = c.store.password.isSome := by
    cases c.store.password <;> rfl
  have hqueues : (c.queues.map Queue.toJson).mapM Queue.ofJson? = some (c.queues.map id) :=
    mapM_decode fun q _ => q.ofJson?_toJson
  simp [ofJson?, toJson, StoreConfig.toJson, shown, Json.member?, Json.text?, Json.items?,
    Json.bool?, List.lookup_cons, hport, hdatabase, hpassword, hqueues]

lemma read?_of_read {c : Config} {text : String} (h : Json.read text = .ok c.toJson) :
    read? text = some c.shown := by
  rw [read?, h]
  exact ofJson?_toJson c

end Shown

/-- Two configurations that are the same, or are so once the password of one is replaced. -/
def SameButPassword (c c' : Config) : Prop :=
  c' = c ∨ ∃ p p', c.store.password = some p ∧ c' = c.withPassword p'

variable {c c' : Config}

lemma eq_withPassword {p : String} (h : c.store.password = some p) : c = c.withPassword p := by
  obtain ⟨⟨host, port, password, database, tls⟩, name, queues⟩ := c
  obtain rfl : password = some p := h
  rfl

/-- What does not depend on which password it is cannot tell them apart. -/
lemma SameButPassword.congr {α : Type} {f : Config → α}
    (hf : ∀ (c : Config) (p p' : String), f (c.withPassword p) = f (c.withPassword p'))
    (h : c.SameButPassword c') : f c = f c' := by
  rcases h with rfl | ⟨p, p', hp, rfl⟩
  · rfl
  · calc f c = f (c.withPassword p) := congrArg f (eq_withPassword hp)
      _ = f (c.withPassword p') := hf c p p'

/-- What is not shown is which password it is. -/
theorem shown_eq_iff : c.shown = c'.shown ↔ c.SameButPassword c' := by
  constructor
  · intro h
    obtain ⟨⟨host, port, password, database, tls⟩, name, queues⟩ := c
    obtain ⟨⟨host', port', password', database', tls'⟩, name', queues'⟩ := c'
    simp only [shown, Shown.mk.injEq] at h
    obtain ⟨rfl, rfl, hpassword, rfl, rfl, rfl, rfl⟩ := h
    cases password with
    | none =>
      obtain rfl : password' = none := Option.not_isSome_iff_eq_none.mp (by simp [← hpassword])
      exact Or.inl rfl
    | some p =>
      obtain ⟨p', rfl⟩ := Option.isSome_iff_exists.mp hpassword.symm
      exact Or.inr ⟨p, p', rfl, rfl⟩
  · exact SameButPassword.congr fun _ _ _ => rfl

theorem toJson_eq_iff : c.toJson = c'.toJson ↔ c.SameButPassword c' := by
  constructor
  · intro h
    have hshown := Shown.ofJson?_toJson c
    rw [h, Shown.ofJson?_toJson] at hshown
    exact shown_eq_iff.mp (Option.some.inj hshown).symm
  · exact SameButPassword.congr toJson_withPassword

/-! ### Texts -/

/-- A configuration opens far fewer brackets than a reader allows. -/
lemma fits_maxDepth (c : Config) : Json.Fits Json.maxDepth c.toJson := c.fits_toJson 124

lemma read_text (c : Config) : Json.read c.toJson.text = .ok c.toJson :=
  Json.read_text c.fits_maxDepth

lemma read_indentedText (c : Config) : Json.read c.toJson.indentedText = .ok c.toJson :=
  Json.read_write Json.Layout.indented_spaced c.fits_maxDepth 0

lemma text_eq_iff : c.toJson.text = c'.toJson.text ↔ c.SameButPassword c' :=
  calc c.toJson.text = c'.toJson.text
    _ ↔ c.toJson = c'.toJson :=
      Json.ofList_write_inj Json.Layout.compact_spaced c.fits_maxDepth c'.fits_maxDepth 0
    _ ↔ c.SameButPassword c' := toJson_eq_iff

lemma indentedText_eq_iff :
    c.toJson.indentedText = c'.toJson.indentedText ↔ c.SameButPassword c' :=
  calc c.toJson.indentedText = c'.toJson.indentedText
    _ ↔ c.toJson = c'.toJson :=
      Json.ofList_write_inj Json.Layout.indented_spaced c.fits_maxDepth c'.fits_maxDepth 0
    _ ↔ c.SameButPassword c' := toJson_eq_iff

/-- The line that ends the output of a check is white space to a reader. -/
lemma read_checked {w : World} (h : w.environment.config = .ok c) :
    Json.read (Program.run w [CommandLine.checkArgument]).output = .ok c.toJson := by
  have hline : c.toJson.indentedText ++ "\n" =
      String.ofList (Json.write .indented 0 c.toJson ++ ['\n']) := by
    rw [String.ofList_append]
    rfl
  rw [Program.check_of_configured h, Report.said, hline]
  exact Json.read_write_append Json.Layout.indented_spaced c.fits_maxDepth 0 ['\n']
    (List.forall_mem_singleton.mpr rfl)

/-- Both texts of a configuration are read as one value, and everything but the password is
recovered from each of them and from what is printed when the configuration is checked. Two
configurations have the same text, in one layout or the other, if and only if they are the same once
the password that one of them has is replaced. -/
theorem texts_show_all_but_password (c : Config) :
    (∃ value, Json.read c.toJson.text = .ok value ∧ Json.read c.toJson.indentedText = .ok value) ∧
    Shown.read? c.toJson.text = some c.shown ∧
    Shown.read? c.toJson.indentedText = some c.shown ∧
    (∀ w : World, w.environment.config = .ok c →
      Shown.read? (Program.run w [CommandLine.checkArgument]).output = some c.shown) ∧
    ∀ c' : Config, (c.toJson.text = c'.toJson.text ↔ c.SameButPassword c') ∧
      (c.toJson.indentedText = c'.toJson.indentedText ↔ c.SameButPassword c') := by
  refine ⟨⟨c.toJson, c.read_text, c.read_indentedText⟩, Shown.read?_of_read c.read_text,
    Shown.read?_of_read c.read_indentedText, ?_, fun c' => ⟨text_eq_iff, indentedText_eq_iff⟩⟩
  intro w h
  exact Shown.read?_of_read (read_checked h)

def guardedConfig (password : Option String) : Config where
  store := ⟨"redis.internal", 6379, password, 0, true⟩
  metricNamespace := "CustomRedisMetrics"
  queues := Queue.defaults

/-- A password that is set looks the same as any other, and not like none. -/
theorem guardedConfig_texts :
    (guardedWorld.withPassword "hunter2").environment.config =
      .ok (guardedConfig (some "hunter2")) ∧
    Shown.read? (Program.run (guardedWorld.withPassword "hunter2")
      [CommandLine.checkArgument]).output = some (guardedConfig (some "***")).shown ∧
    (guardedConfig (some "hunter2")).toJson.text = (guardedConfig (some "***")).toJson.text ∧
    (guardedConfig (some "hunter2")).toJson.indentedText ≠
      (guardedConfig none).toJson.indentedText := by
  obtain ⟨_, _, _, hchecked, htexts⟩ :=
    texts_show_all_but_password (guardedConfig (some "hunter2"))
  have hconfig : (guardedWorld.withPassword "hunter2").environment.config =
      .ok (guardedConfig (some "hunter2")) := by decide +kernel
  refine ⟨hconfig, hchecked _ hconfig, (htexts _).1.mpr (Or.inr ⟨_, "***", rfl, rfl⟩), ?_⟩
  intro h
  rcases (htexts _).2.mp h with hsame | ⟨_, p', _, hsame⟩
  · exact absurd hsame (by decide)
  · have hpassword := congrArg (fun c => c.store.password) hsame
    cases hpassword

end Config

end Backlog
