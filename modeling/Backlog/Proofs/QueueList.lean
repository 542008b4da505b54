import Backlog.Proofs.Trimming
import Backlog.Queue
import Mathlib.Data.List.Forall2

/-!
# Lists of queues read and written

A list is read if each of its entries names a queue, and else refused for the first that does not.
The queues that come out of it have no blank around their parts, no comma in them and no equals sign
in the key. Queues like that are read back from the list that is written of them: the commas of the
list are those between its entries, and the first equals sign of an entry ends its key.
-/

namespace Backlog.Queue

/-- What the parts of a queue are like when they come from a list. -/
structure Listable (q : Queue) : Prop where
  key : Text.Trimmed q.key.toList
  metric : Text.Trimmed q.metric.toList
  key_comma : ',' ∉ q.key.toList
  metric_comma : ',' ∉ q.metric.toList
  key_equals : '=' ∉ q.key.toList

/-- An entry that names a queue: the key before its first equals sign and the metric after it,
without the blanks around them. -/
def Names (entry : List Char) (q : Queue) : Prop :=
  ∃ key metric, '=' ∉ key ∧ entry = key ++ '=' :: metric ∧
    q = ⟨String.ofList (Text.trim key), String.ofList (Text.trim metric)⟩

/-- A text whose entries name some queues, one after the other. -/
def Lists (s : String) (queues : List Queue) : Prop := List.Forall₂ Names (entries s.toList) queues

/-- The first entry of a text that names no queue. -/
def firstNameless? (s : String) : Option (List Char) :=
  (entries s.toList).find? fun entry => decide ('=' ∉ entry)

/-! ### Reading -/

lemma comma_not_mem_of_mem_splitOn {cs piece : List Char} (h : piece ∈ cs.splitOn ',') :
    ',' ∉ piece := by
  induction cs generalizing piece with
  | nil =>
    rw [List.splitOn_nil, List.mem_singleton] at h
    rw [h]
    exact List.not_mem_nil
  | cons c rest ih =>
    rw [List.splitOn_cons_eq_if_modifyHead] at h
    by_cases hc : (c == ',') = true
    · rw [if_pos hc, List.mem_cons] at h
      rcases h with rfl | h
      · exact List.not_mem_nil
      · exact ih h
    · rw [if_neg hc] at h
      cases hsplit : rest.splitOn ',' with
      | nil => exact absurd hsplit (List.splitOn_ne_nil _ _)
      | cons first more =>
        rw [hsplit, List.modifyHead_cons, List.mem_cons] at h
        rcases h with rfl | h
        · have hfirst : ',' ∉ first := ih (by simp [hsplit])
          rw [List.mem_cons, not_or]
          exact ⟨fun heq => hc (beq_iff_eq.mpr heq.symm), hfirst⟩
        · exact ih (by simp [hsplit, h])

lemma comma_not_mem_of_mem_entries {cs entry : List Char} (h : entry ∈ entries cs) :
    ',' ∉ entry := by
  rw [entries, List.mem_filter, List.mem_map] at h
  obtain ⟨⟨piece, hpiece, rfl⟩, _⟩ := h
  exact fun hmem => comma_not_mem_of_mem_splitOn hpiece (Text.mem_of_mem_trim hmem)

/-- The key of an entry ends where the first equals sign stands. -/
lemma ofEntry?_append {key metric : List Char} (h : '=' ∉ key) :
    ofEntry? (key ++ '=' :: metric) =
      some ⟨String.ofList (Text.trim key), String.ofList (Text.trim metric)⟩ := by
  have hall : ∀ c ∈ key, (c != '=') = true := by
    intro c hc
    rw [bne_iff_ne]
    rintro rfl
    exact h hc
  have hdrop : (key ++ '=' :: metric).dropWhile (· != '=') = '=' :: metric := by
    rw [List.dropWhile_append_of_pos hall]
    rfl
  have htake : (key ++ '=' :: metric).takeWhile (· != '=') = key := by
    rw [List.takeWhile_append_of_pos hall]
    simp
  unfold ofEntry?
  rw [hdrop, htake]

lemma ofEntry?_eq_none {entry : List Char} (h : '=' ∉ entry) : ofEntry? entry = none := by
  have hdrop : entry.dropWhile (· != '=') = [] := by
    rw [List.dropWhile_eq_nil_iff]
    intro c hc
    rw [bne_iff_ne]
    rintro rfl
    exact h hc
  unfold ofEntry?
  rw [hdrop]

lemma ofEntry?_eq_some_iff {entry : List Char} {q : Queue} :
    ofEntry? entry = some q ↔ Names entry q := by
  constructor
  · intro h
    by_cases hequals : '=' ∈ entry
    · obtain ⟨key, metric, rfl, hkey⟩ := List.eq_append_cons_of_mem hequals
      rw [ofEntry?_append hkey] at h
      exact ⟨key, metric, hkey, rfl, (Option.some.inj h).symm⟩
    · rw [ofEntry?_eq_none hequals] at h
      cases h
  · rintro ⟨key, metric, hkey, rfl, rfl⟩
    exact ofEntry?_append hkey

lemma ofEntries_eq_ok_iff {es : List (List Char)} {queues : List Queue} :
    ofEntries es = .ok queues ↔ List.Forall₂ Names es queues := by
  induction es generalizing queues with
  | nil =>
    rw [List.forall₂_nil_left_iff, ofEntries, Except.ok.injEq]
    exact eq_comm
  | cons e rest ih =>
    rw [ofEntries, List.forall₂_cons_left_iff]
    simp only [← ofEntry?_eq_some_iff, ← ih]
    cases ofEntry? e with
    | none => simp
    | some q => cases ofEntries rest <;> simp [Except.map, eq_comm]

lemma ofEntries_eq_error_iff {es : List (List Char)} {text : String} :
    ofEntries es = .error text ↔
      ∃ e, es.find? (fun e => decide ('=' ∉ e)) = some e ∧ text = String.ofList e := by
  induction es with
  | nil => simp [ofEntries]
  | cons e rest ih =>
    rw [ofEntries, List.find?_cons]
    by_cases hequals : '=' ∈ e
    · obtain ⟨key, metric, rfl, hkey⟩ := List.eq_append_cons_of_mem hequals
      rw [ofEntry?_append hkey, decide_eq_false (not_not.mpr hequals)]
      dsimp only
      rw [← ih]
      cases ofEntries rest <;> simp [Except.map]
    · rw [ofEntry?_eq_none hequals, decide_eq_true hequals]
      simp [eq_comm]

/-- A list is read if and only if every entry names a queue. -/
theorem readList_eq_ok_iff {s : String} {queues : List Queue} :
    readList s = .ok queues ↔ Lists s queues := ofEntries_eq_ok_iff

lemma Lists.unique {s : String} {queues queues' : List Queue} (h : Lists s queues)
    (h' : Lists s queues') : queues = queues' := by
  rw [← readList_eq_ok_iff] at h h'
  exact Except.ok.inj (h.symm.trans h')

/-- Otherwise it is refused for the first entry that names none. -/
theorem readList_eq_error_iff {s text : String} :
    readList s = .error text ↔ ∃ e, firstNameless? s = some e ∧ text = String.ofList e :=
  ofEntries_eq_error_iff

lemma Names.listable {entry : List Char} {q : Queue} (h : Names entry q) (hcomma : ',' ∉ entry) :
    q.Listable := by
  obtain ⟨key, metric, hkey, rfl, rfl⟩ := h
  rw [List.mem_append, List.mem_cons, not_or, not_or] at hcomma
  constructor
  · rw [String.toList_ofList]
    exact Text.trim_trimmed key
  · rw [String.toList_ofList]
    exact Text.trim_trimmed metric
  · rw [String.toList_ofList]
    exact fun hmem => hcomma.1 (Text.mem_of_mem_trim hmem)
  · rw [String.toList_ofList]
    exact fun hmem => hcomma.2.2 (Text.mem_of_mem_trim hmem)
  · rw [String.toList_ofList]
    exact fun hmem => hkey (Text.mem_of_mem_trim hmem)

theorem Lists.listable {s : String} {queues : List Queue} (h : Lists s queues) :
    ∀ q ∈ queues, q.Listable := by
  intro q hq
  obtain ⟨i, hi, rfl⟩ := List.mem_iff_getElem.mp hq
  have hlength := List.Forall₂.length_eq h
  have hnames := List.Forall₂.get h (hlength ▸ hi) hi
  exact hnames.listable (comma_not_mem_of_mem_entries (List.getElem_mem _))

lemma lists_defaults : Lists "urls=ScraperQueueLength,rag=RAGQueueLength" defaults :=
  readList_eq_ok_iff.mp rfl

/-! ### Writing -/

lemma entryText_toList (q : Queue) :
    q.entryText.toList = q.key.toList ++ '=' :: q.metric.toList := by
  simp [entryText]

lemma Listable.names_entryText {q : Queue} (h : q.Listable) : Names q.entryText.toList q := by
  refine ⟨q.key.toList, q.metric.toList, h.key_equals, entryText_toList q, ?_⟩
  rw [h.key.trim_eq, h.metric.trim_eq, String.ofList_toList, String.ofList_toList]

lemma Listable.entryText_trimmed {q : Queue} (h : q.Listable) :
    Text.Trimmed q.entryText.toList := by
  rw [entryText_toList]
  constructor
  · intro c hc
    cases hkey : q.key.toList with
    | nil =>
      rw [hkey] at hc
      obtain rfl : '=' = c := by simpa using hc
      decide
    | cons d rest =>
      apply h.key.first
      rw [hkey] at hc ⊢
      exact hc
  · intro c hc
    cases hmetric : q.metric.toList with
    | nil =>
      rw [hmetric] at hc
      obtain rfl : '=' = c := by simpa using hc
      decide
    | cons d rest =>
      apply h.metric.last
      rw [hmetric] at hc ⊢
      simpa [List.getLast?_append] using hc

lemma Listable.entryText_comma {q : Queue} (h : q.Listable) : ',' ∉ q.entryText.toList := by
  rw [entryText_toList, List.mem_append, List.mem_cons, not_or, not_or]
  exact ⟨h.key_comma, by decide, h.metric_comma⟩

lemma writeList_toList (queues : List Queue) :
    (writeList queues).toList = [','].intercalate (queues.map fun q => q.entryText.toList) := by
  rw [writeList, String.toList_intercalate, List.map_map]
  rfl

lemma equals_mem_writeList {queues : List Queue} (h : queues ≠ []) :
    '=' ∈ (writeList queues).toList := by
  rw [writeList_toList]
  match queues, h with
  | [q], _ => simp [entryText_toList]
  | q :: r :: rest, _ =>
    rw [List.map_cons, List.map_cons, List.intercalate_cons_cons, entryText_toList]
    simp

lemma entries_writeList {queues : List Queue} (h : ∀ q ∈ queues, q.Listable) :
    entries (writeList queues).toList = queues.map fun q => q.entryText.toList := by
  by_cases hne : queues = []
  · subst hne
    rfl
  · have hsplit : (writeList queues).toList.splitOn ',' =
        queues.map fun q => q.entryText.toList := by
      rw [writeList_toList]
      apply List.splitOn_intercalate
      · intro piece hpiece
        obtain ⟨q, hq, rfl⟩ := List.mem_map.mp hpiece
        exact (h q hq).entryText_comma
      · simpa using hne
    have htrim : (queues.map fun q => q.entryText.toList).map Text.trim =
        queues.map fun q => q.entryText.toList := by
      rw [List.map_map]
      apply List.map_congr_left
      intro q hq
      exact (h q hq).entryText_trimmed.trim_eq
    rw [entries, hsplit, htrim, List.filter_eq_self]
    intro entry hentry
    obtain ⟨q, _, rfl⟩ := List.mem_map.mp hentry
    simp [entryText_toList]

theorem lists_writeList {queues : List Queue} (h : ∀ q ∈ queues, q.Listable) :
    Lists (writeList queues) queues := by
  rw [Lists, entries_writeList h]
  rw [List.forall₂_map_left_iff, List.forall₂_same]
  exact fun q hq => (h q hq).names_entryText

end Backlog.Queue
