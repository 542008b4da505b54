import Backlog.Config.Fault
import Backlog.Proofs.QueueList

/-!
# The spellings of a list of queues

A queue can be spelled with blanks around its key and its metric, and a list of queues with blank
entries anywhere between the commas. The reader takes exactly these spellings, and gives back what
is spelled: the blanks around an entry go with those of its key on one side and of its metric on the
other, so it is the same whether an entry is trimmed before it is split or not.
-/

namespace Backlog

namespace Text

/-- A text of blanks alone, or none at all. -/
def Blanks (cs : List Char) : Prop := ∀ c ∈ cs, isBlank c = true

instance (cs : List Char) : Decidable (Blanks cs) :=
  inferInstanceAs (Decidable (∀ c ∈ cs, isBlank c = true))

lemma Blanks.not_mem {cs : List Char} {c : Char} (h : Blanks cs) (hc : isBlank c = false) :
    c ∉ cs := by
  intro hmem
  rw [h c hmem] at hc
  cases hc

/-- Blanks around a text are trimmed off and nothing else. -/
theorem trim_append {a b : List Char} (ha : Blanks a) (hb : Blanks b) (cs : List Char) :
    trim (a ++ cs ++ b) = trim cs := by
  have hdrop : (a ++ cs ++ b).dropWhile isBlank = (cs ++ b).dropWhile isBlank := by
    rw [List.append_assoc, List.dropWhile_append_of_pos ha]
  have hend : ∀ ds : List Char, trimEnd (ds ++ b) = trimEnd ds := by
    intro ds
    have hreverse : ∀ c ∈ b.reverse, isBlank c = true := fun c hc => hb c (List.mem_reverse.mp hc)
    rw [trimEnd, trimEnd, List.reverse_append, List.dropWhile_append_of_pos hreverse]
  rw [trim, hdrop, trim, List.dropWhile_append]
  by_cases hcs : (cs.dropWhile isBlank).isEmpty = true
  · have hnil : b.dropWhile isBlank = [] := List.dropWhile_eq_nil_iff.mpr hb
    rw [if_pos hcs, hnil, List.isEmpty_iff.mp hcs]
  · rw [if_neg hcs, hend]

/-- What is trimmed off are blanks. -/
theorem exists_trim (cs : List Char) : ∃ a b, Blanks a ∧ Blanks b ∧ cs = a ++ trim cs ++ b := by
  refine ⟨cs.takeWhile isBlank, (cs.dropWhile isBlank).rtakeWhile isBlank,
    fun c hc => List.mem_takeWhile_imp hc, fun c hc => List.mem_rtakeWhile_imp hc, ?_⟩
  rw [List.append_assoc, trim, trimEnd_eq_rdropWhile, List.rdropWhile_append_rtakeWhile,
    List.takeWhile_append_dropWhile]

lemma trim_eq_nil_iff_blanks {cs : List Char} : trim cs = [] ↔ Blanks cs := trim_eq_nil_iff

end Text

namespace Queue

open Text

/-! ### Entries -/

/-- The pieces of a text between its commas. -/
def pieces (s : String) : List (List Char) := s.toList.splitOn ','

/-- A piece that spells a queue, with any blanks around its key and its metric. -/
def Spells (piece : List Char) (q : Queue) : Prop :=
  ∃ a b c d, Blanks a ∧ Blanks b ∧ Blanks c ∧ Blanks d ∧
    piece = a ++ q.key.toList ++ b ++ '=' :: (c ++ q.metric.toList ++ d)

/-- A piece that is neither blank nor has an equals sign in it. -/
def Nameless (piece : List Char) : Prop := ¬Blanks piece ∧ '=' ∉ piece

instance (piece : List Char) : Decidable (Nameless piece) :=
  inferInstanceAs (Decidable (¬Blanks piece ∧ '=' ∉ piece))

variable {piece : List Char} {q : Queue}

lemma Names.unique {q' : Queue} (h : Names piece q) (h' : Names piece q') : q = q' := by
  rw [← ofEntry?_eq_some_iff] at h h'
  exact Option.some.inj (h.symm.trans h')

lemma Names.not_blanks (h : Names piece q) : ¬Blanks piece := by
  obtain ⟨key, metric, _, rfl, _⟩ := h
  exact fun hblanks => hblanks.not_mem (c := '=') (by decide) (by simp)

lemma Names.append {a b : List Char} (ha : Blanks a) (hb : Blanks b) (h : Names piece q) :
    Names (a ++ piece ++ b) q := by
  obtain ⟨key, metric, hkey, rfl, rfl⟩ := h
  have hnil : Blanks [] := fun _ hc => by cases hc
  refine ⟨a ++ key, metric ++ b, ?_, by simp, ?_⟩
  · rw [List.mem_append, not_or]
    exact ⟨ha.not_mem (by decide), hkey⟩
  · have htrim := trim_append ha hnil key
    have htrim' := trim_append hnil hb metric
    rw [List.append_nil] at htrim
    rw [List.nil_append] at htrim'
    rw [htrim, htrim']

lemma equals_mem_trim_iff : '=' ∈ trim piece ↔ '=' ∈ piece := by
  obtain ⟨a, b, ha, hb, hpiece⟩ := exists_trim piece
  constructor
  · exact mem_of_mem_trim
  · intro h
    rw [hpiece, List.mem_append, List.mem_append] at h
    rcases h with (h | h) | h
    · exact absurd h (ha.not_mem (by decide))
    · exact h
    · exact absurd h (hb.not_mem (by decide))

/-- An entry names the same queue before it is trimmed. -/
lemma names_trim_iff : Names (trim piece) q ↔ Names piece q := by
  obtain ⟨a, b, ha, hb, hpiece⟩ := exists_trim piece
  constructor
  · intro h
    rw [hpiece]
    exact h.append ha hb
  · intro h
    have hequals : '=' ∈ trim piece := by
      rw [equals_mem_trim_iff]
      obtain ⟨key, metric, _, rfl, _⟩ := h
      simp
    obtain ⟨key, metric, htrim, hkey⟩ := List.eq_append_cons_of_mem hequals
    have hnames : Names (trim piece) _ := ⟨key, metric, hkey, htrim, rfl⟩
    have hpieceNames := hnames.append ha hb
    rw [← hpiece] at hpieceNames
    rwa [h.unique hpieceNames]

lemma Spells.names (hq : q.Listable) (h : Spells piece q) : Names piece q := by
  obtain ⟨a, b, c, d, ha, hb, hc, hd, rfl⟩ := h
  refine ⟨a ++ q.key.toList ++ b, c ++ q.metric.toList ++ d, ?_, rfl, ?_⟩
  · simp only [List.mem_append, not_or]
    exact ⟨⟨ha.not_mem (by decide), hq.key_equals⟩, hb.not_mem (by decide)⟩
  · rw [trim_append ha hb, trim_append hc hd, hq.key.trim_eq, hq.metric.trim_eq,
      String.ofList_toList, String.ofList_toList]

lemma Names.spells (h : Names piece q) : Spells piece q := by
  obtain ⟨key, metric, _, rfl, rfl⟩ := h
  obtain ⟨a, b, ha, hb, hkey⟩ := exists_trim key
  obtain ⟨c, d, hc, hd, hmetric⟩ := exists_trim metric
  refine ⟨a, b, c, d, ha, hb, hc, hd, ?_⟩
  rw [String.toList_ofList, String.toList_ofList, ← hkey, ← hmetric]

lemma Spells.comma_not_mem (hq : q.Listable) (h : Spells piece q) : ',' ∉ piece := by
  obtain ⟨a, b, c, d, ha, hb, hc, hd, rfl⟩ := h
  simp only [List.mem_append, List.mem_cons, not_or]
  exact ⟨⟨⟨ha.not_mem (by decide), hq.key_comma⟩, hb.not_mem (by decide)⟩, by decide,
    ⟨hc.not_mem (by decide), hq.metric_comma⟩, hd.not_mem (by decide)⟩

/-! ### Lists -/

/-- Pieces that spell some queues in order, with any blank pieces among them. -/
inductive SpellAll : List (List Char) → List Queue → Prop where
  | nil : SpellAll [] []
  | blank {piece : List Char} {rest : List (List Char)} {queues : List Queue}
      (h : Blanks piece) (hrest : SpellAll rest queues) : SpellAll (piece :: rest) queues
  | entry {piece : List Char} {q : Queue} {rest : List (List Char)} {queues : List Queue}
      (h : Spells piece q) (hrest : SpellAll rest queues) : SpellAll (piece :: rest) (q :: queues)

/-- The pieces that are not blank. -/
def written (ps : List (List Char)) : List (List Char) := ps.filter fun p => decide ¬Blanks p

lemma entries_eq (s : String) : entries s.toList = (written (pieces s)).map trim := by
  rw [entries, List.filter_map, written, pieces]
  refine congrArg (List.map trim) (List.filter_congr fun p _ => ?_)
  have hempty : (trim p).isEmpty = decide (Blanks p) := by
    rw [Bool.eq_iff_iff, List.isEmpty_iff, decide_eq_true_iff, trim_eq_nil_iff_blanks]
  rw [Function.comp_apply, hempty, decide_not]

/-- A text is read as one queue for each piece that is not blank, in order. -/
theorem readList_eq_ok_iff_names {s : String} {queues : List Queue} :
    readList s = .ok queues ↔ List.Forall₂ Names (written (pieces s)) queues := by
  rw [readList_eq_ok_iff, Lists, entries_eq, List.forall₂_map_left_iff]
  simp only [names_trim_iff]

lemma firstNameless?_eq (s : String) :
    firstNameless? s = ((pieces s).find? fun p => decide (Nameless p)).map trim := by
  rw [firstNameless?, entries_eq, List.find?_map, written, List.find?_filter]
  refine congrArg (fun f => ((pieces s).find? f).map trim) (funext fun p => ?_)
  rw [Bool.eq_iff_iff]
  simp only [Function.comp_apply, equals_mem_trim_iff, decide_eq_true_iff]
  rfl

/-- A text is refused for the first piece that is nameless. -/
theorem readList_eq_error_iff_nameless {s text : String} : readList s = .error text ↔
    ∃ before piece after, pieces s = before ++ piece :: after ∧ Nameless piece ∧
      (∀ p ∈ before, ¬Nameless p) ∧ text = String.ofList (trim piece) := by
  rw [readList_eq_error_iff, firstNameless?_eq]
  constructor
  · rintro ⟨_, hsome, rfl⟩
    obtain ⟨piece, hfind, rfl⟩ := Option.map_eq_some_iff.mp hsome
    obtain ⟨hpiece, before, after, hsplit, hbefore⟩ := List.find?_eq_some_iff_append.mp hfind
    refine ⟨before, piece, after, hsplit, by simpa using hpiece, ?_, rfl⟩
    simpa using hbefore
  · rintro ⟨before, piece, after, hsplit, hpiece, hbefore, rfl⟩
    refine ⟨trim piece, Option.map_eq_some_iff.mpr ⟨piece, ?_, rfl⟩, rfl⟩
    refine List.find?_eq_some_iff_append.mpr ⟨by simpa using hpiece, before, after, hsplit, ?_⟩
    simpa using hbefore

theorem readList_fails_iff {s : String} :
    (∃ text, readList s = .error text) ↔ ∃ piece ∈ pieces s, Nameless piece := by
  constructor
  · rintro ⟨text, h⟩
    obtain ⟨before, piece, after, hsplit, hpiece, _⟩ := readList_eq_error_iff_nameless.mp h
    exact ⟨piece, by simp [hsplit], hpiece⟩
  · rintro ⟨piece, hmem, hpiece⟩
    have hsome : ((pieces s).find? fun p => decide (Nameless p)).isSome = true :=
      List.find?_isSome.mpr ⟨piece, hmem, decide_eq_true hpiece⟩
    obtain ⟨first, hfirst⟩ := Option.isSome_iff_exists.mp hsome
    refine ⟨_, readList_eq_error_iff.mpr ⟨trim first, ?_, rfl⟩⟩
    rw [firstNameless?_eq, hfirst, Option.map_some]

lemma written_cons_blank {ps : List (List Char)} (h : Blanks piece) :
    written (piece :: ps) = written ps := List.filter_cons_of_neg (by simpa using h)

lemma written_cons_entry {ps : List (List Char)} (h : ¬Blanks piece) :
    written (piece :: ps) = piece :: written ps := List.filter_cons_of_pos (by simpa using h)

/-- Pieces that spell some queues are read as these, … -/
lemma SpellAll.names {ps : List (List Char)} {queues : List Queue} (h : SpellAll ps queues)
    (hlistable : ∀ q ∈ queues, q.Listable) : List.Forall₂ Names (written ps) queues := by
  induction h with
  | nil => exact .nil
  | blank h _ ih =>
    rw [written_cons_blank h]
    exact ih hlistable
  | entry h _ ih =>
    rw [List.forall_mem_cons] at hlistable
    have hnames := h.names hlistable.1
    rw [written_cons_entry hnames.not_blanks]
    exact .cons hnames (ih hlistable.2)

/-- … and pieces that are read as some queues spell these. -/
lemma spellAll_of_names {ps : List (List Char)} {queues : List Queue}
    (h : List.Forall₂ Names (written ps) queues) : SpellAll ps queues := by
  induction ps generalizing queues with
  | nil =>
    cases h
    exact .nil
  | cons piece ps ih =>
    by_cases hpiece : Blanks piece
    · rw [written_cons_blank hpiece] at h
      exact .blank hpiece (ih h)
    · rw [written_cons_entry hpiece] at h
      cases h with
      | cons hnames hrest => exact .entry hnames.spells (ih hrest)

/-- A text is read as some queues if and only if its pieces spell them and they are such as can come
out of a list. -/
theorem readList_eq_ok_iff_spellAll {s : String} {queues : List Queue} :
    readList s = .ok queues ↔ SpellAll (pieces s) queues ∧ ∀ q ∈ queues, q.Listable := by
  constructor
  · intro h
    exact ⟨spellAll_of_names (readList_eq_ok_iff_names.mp h), (readList_eq_ok_iff.mp h).listable⟩
  · rintro ⟨hspells, hlistable⟩
    exact readList_eq_ok_iff_names.mpr (hspells.names hlistable)

lemma SpellAll.comma_not_mem {ps : List (List Char)} {queues : List Queue} (h : SpellAll ps queues)
    (hlistable : ∀ q ∈ queues, q.Listable) : ∀ p ∈ ps, ',' ∉ p := by
  induction h with
  | nil => simp
  | blank h _ ih =>
    rw [List.forall_mem_cons]
    exact ⟨h.not_mem (by decide), ih hlistable⟩
  | entry h _ ih =>
    rw [List.forall_mem_cons] at hlistable ⊢
    exact ⟨h.comma_not_mem hlistable.1, ih hlistable.2⟩

/-- The text of some pieces has these pieces, and a single blank one if there are none. -/
lemma pieces_intercalate {ps : List (List Char)} (hne : ps ≠ []) (hcomma : ∀ p ∈ ps, ',' ∉ p) :
    pieces (String.ofList ([','].intercalate ps)) = ps := by
  rw [pieces, String.toList_ofList]
  exact List.splitOn_intercalate ',' hcomma hne

/-- Every spelling of a list is read as that list. -/
theorem readList_of_spellAll {ps : List (List Char)} {queues : List Queue}
    (h : SpellAll ps queues) (hlistable : ∀ q ∈ queues, q.Listable) :
    readList (String.ofList ([','].intercalate ps)) = .ok queues := by
  by_cases hne : ps = []
  · subst hne
    cases h
    rfl
  · rw [readList_eq_ok_iff_spellAll, pieces_intercalate hne (h.comma_not_mem hlistable)]
    exact ⟨h, hlistable⟩

/-- A text is refused if and only if a piece of it is nameless, and then for the first of these,
trimmed; otherwise each piece that is not blank is a queue, in order, cut at its first equals sign.
What is read has no blanks around its parts, no commas and no equals signs in keys, and all lists
like that are read from every spelling they have. So what is read can be written and read again. -/
theorem read_from_every_spelling (s : String) :
    ((∃ text, readList s = .error text) ↔ ∃ piece ∈ pieces s, Nameless piece) ∧
    (∀ text, readList s = .error text ↔
      ∃ before piece after, pieces s = before ++ piece :: after ∧ Nameless piece ∧
        (∀ p ∈ before, ¬Nameless p) ∧ text = String.ofList (trim piece)) ∧
    (∀ text, (ConfigFault.badEntry text).toFault =
      .config ("invalid queue entry '" ++ text ++ "', expected key=MetricName")) ∧
    (∀ queues, readList s = .ok queues ↔ List.Forall₂ Names (written (pieces s)) queues) ∧
    (∀ queues, readList s = .ok queues ↔
      SpellAll (pieces s) queues ∧ ∀ q ∈ queues, q.Listable) ∧
    (∀ queues, (∀ q ∈ queues, q.Listable) → ∀ ps, SpellAll ps queues →
      readList (String.ofList ([','].intercalate ps)) = .ok queues) ∧
    ∀ queues, readList s = .ok queues → readList (writeList queues) = .ok queues := by
  refine ⟨readList_fails_iff, fun _ => readList_eq_error_iff_nameless, fun _ => rfl,
    fun _ => readList_eq_ok_iff_names, fun _ => readList_eq_ok_iff_spellAll,
    fun _ hlistable _ h => readList_of_spellAll h hlistable, ?_⟩
  intro queues h
  exact readList_eq_ok_iff.mpr (lists_writeList (readList_eq_ok_iff.mp h).listable)

/-- Further equals signs belong to the metric, and one alone is a queue without key and metric. -/
example : readList "\u3000, a\u00a0= x=y,=\t," = .ok [⟨"a", "x=y"⟩, ⟨"", ""⟩] := by
  decide +kernel

end Queue

end Backlog
