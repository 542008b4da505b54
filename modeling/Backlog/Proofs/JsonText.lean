import Backlog.Proofs.JsonScalars

/-!
# JSON values read back

The reader undoes the writer in every layout whose breaks are white space, for values in which no
more brackets are open at once than the reader allows. The induction is on that bound: a closed
bracket frees one level, and inside a bracket the items are read by the reader of the level below.
-/

namespace Backlog.Json

/-- A layout that writes white space where a text may be broken, and a colon after a name. -/
structure Layout.Spaced (l : Layout) : Prop where
  lineBreak : ∀ depth, ∀ c ∈ l.lineBreak depth, isSpace c = true
  colon : ∃ spaces, l.colon = ':' :: spaces ∧ ∀ c ∈ spaces, isSpace c = true

lemma Layout.compact_spaced : Layout.compact.Spaced where
  lineBreak := by simp [Layout.compact]
  colon := ⟨[], rfl, by simp⟩

lemma Layout.indented_spaced : Layout.indented.Spaced where
  lineBreak depth := by
    rw [indented, List.forall_mem_cons]
    refine ⟨by decide, fun c hc => ?_⟩
    obtain rfl := List.eq_of_mem_replicate hc
    decide
  colon := ⟨[' '], rfl, List.forall_mem_singleton.mpr rfl⟩

/-- A value with at most so many open brackets at once, whose numbers are read as they stand. -/
inductive Fits : Nat → Json → Prop where
  | null (depth : Nat) : Fits depth .null
  | bool (depth : Nat) (value : Bool) : Fits depth (.bool value)
  | number {literal : String} (depth : Nat) (h : NumberText literal.toList) :
      Fits depth (.number literal)
  | string (depth : Nat) (text : String) : Fits depth (.string text)
  | array {depth : Nat} {js : List Json} (h : ∀ j ∈ js, Fits depth j) :
      Fits (depth + 1) (.array js)
  | object {depth : Nat} {ms : List (String × Json)} (h : ∀ m ∈ ms, Fits depth m.2) :
      Fits (depth + 1) (.object ms)

lemma fits_nat (depth n : Nat) : Fits depth (.nat n) := by
  apply Fits.number
  rw [Numeral.text, String.toList_ofList]
  exact numberText_write n

lemma skip_append {spaces : List Char} (h : ∀ c ∈ spaces, isSpace c = true) (cs : List Char) :
    skip (spaces ++ cs) = skip cs :=
  List.dropWhile_append_of_pos h

lemma skip_cons {c : Char} (h : isSpace c = false) (cs : List Char) : skip (c :: cs) = c :: cs := by
  simp [skip, h]

lemma value_skip (depth : Nat) {spaces : List Char} (h : ∀ c ∈ spaces, isSpace c = true)
    (cs : List Char) : value depth (spaces ++ cs) = value depth cs := by
  cases depth <;> simp only [value, skip_append h]

/-- What follows a value in a text: its end, white space, a comma or a closing bracket. -/
def Delimited (rest : List Char) : Prop :=
  ∀ c, rest.head? = some c → isSpace c = true ∨ c = ',' ∨ c = ']' ∨ c = '\x7d'

lemma Delimited.endsNumber {rest : List Char} (h : Delimited rest) : EndsNumber rest := by
  intro c hc
  rcases h c hc with hspace | rfl | rfl | rfl
  · simp only [isSpace, Bool.or_eq_true, decide_eq_true_eq] at hspace
    rcases hspace with ((rfl | rfl) | rfl) | rfl <;> decide
  · decide
  · decide
  · decide

lemma delimited_nil : Delimited [] := by
  intro c hc
  cases hc

lemma delimited_append {spaces : List Char} (h : ∀ c ∈ spaces, isSpace c = true)
    {rest : List Char} (hrest : Delimited rest) : Delimited (spaces ++ rest) := by
  cases spaces with
  | nil => exact hrest
  | cons s spaces =>
    intro c hc
    obtain rfl : s = c := by simpa using hc
    exact Or.inl (h s List.mem_cons_self)

lemma delimited_cons {c : Char} (h : c = ',' ∨ c = ']' ∨ c = '\x7d') (rest : List Char) :
    Delimited (c :: rest) := by
  intro d hd
  obtain rfl : c = d := by simpa using hd
  exact Or.inr h

/-! ### Steps of the reader -/

section Steps

variable {item : Parser Json} {cs after rest rest' tail : List Char} {c : Char} {fuel : Nat}
  {j : Json} {js : List Json} {name : String} {m : String × Json} {ms : List (String × Json)}

lemma moreItems_close (h : skip cs = ']' :: rest) :
    moreItems item (fuel + 1) cs = .ok ([], rest) := by
  simp [moreItems, h]

lemma moreItems_comma (h : skip cs = ',' :: after) (hafter : skip after = c :: tail)
    (hc : c ≠ ']') (hj : item (c :: tail) = .ok (j, rest))
    (hjs : moreItems item fuel rest = .ok (js, rest')) :
    moreItems item (fuel + 1) cs = .ok (j :: js, rest') := by
  rw [moreItems, h]
  simp only [hafter]
  split <;> simp_all [Bind.bind, Except.bind, Pure.pure, Except.pure]

lemma items_close (h : skip cs = ']' :: rest) : items item cs = .ok ([], rest) := by
  simp [items, h]

lemma items_open (h : skip cs = c :: tail) (hc : c ≠ ']') (hj : item (c :: tail) = .ok (j, rest))
    (hjs : moreItems item rest.length rest = .ok (js, rest')) :
    items item cs = .ok (j :: js, rest') := by
  rw [items, h]
  split <;> simp_all [Bind.bind, Except.bind, Pure.pure, Except.pure]

lemma member_read (hname : stringBody cs = .ok (name.toList, after))
    (hcolon : skip after = ':' :: tail) (hj : item tail = .ok (j, rest)) :
    member item ('"' :: cs) = .ok ((name, j), rest) := by
  simp [member, hname, hcolon, hj, Bind.bind, Except.bind, Pure.pure, Except.pure]

lemma moreMembers_close (h : skip cs = '\x7d' :: rest) :
    moreMembers item (fuel + 1) cs = .ok ([], rest) := by
  simp [moreMembers, h]

lemma moreMembers_comma (h : skip cs = ',' :: after) (hafter : skip after = '"' :: tail)
    (hm : member item ('"' :: tail) = .ok (m, rest))
    (hms : moreMembers item fuel rest = .ok (ms, rest')) :
    moreMembers item (fuel + 1) cs = .ok (m :: ms, rest') := by
  simp [moreMembers, h, hafter, hm, hms, Bind.bind, Except.bind, Pure.pure, Except.pure]

lemma members_close (h : skip cs = '\x7d' :: rest) : members item cs = .ok ([], rest) := by
  simp [members, h]

lemma members_open (h : skip cs = '"' :: tail) (hm : member item ('"' :: tail) = .ok (m, rest))
    (hms : moreMembers item rest.length rest = .ok (ms, rest')) :
    members item cs = .ok (m :: ms, rest') := by
  simp [members, h, hm, hms, Bind.bind, Except.bind, Pure.pure, Except.pure]

end Steps

/-! ### Brackets -/

/-- The item reader undoes the writer on one value, wherever it stands. -/
def Reads (l : Layout) (item : Parser Json) (j : Json) : Prop :=
  ∀ k spaces rest, (∀ c ∈ spaces, isSpace c = true) → Delimited rest →
    item (spaces ++ (write l k j ++ rest)) = .ok (j, rest)

/-- A value begins with a character of its own. -/
def Begins (l : Layout) (j : Json) : Prop :=
  ∀ k, ∃ c tail, write l k j = c :: tail ∧ isSpace c = false ∧ c ≠ ']'

lemma length_lt_writeItems (l : Layout) (k : Nat) (rest : List Char) (js : List Json) :
    js.length < (writeItems l k js ++ rest).length := by
  induction js with
  | nil =>
    simp only [writeItems, List.length_append, List.length_cons, List.length_nil]
    omega
  | cons j js ih =>
    simp only [writeItems, List.length_append, List.length_cons] at ih ⊢
    omega

lemma length_lt_writeMembers (l : Layout) (k : Nat) (rest : List Char)
    (ms : List (String × Json)) : ms.length < (writeMembers l k ms ++ rest).length := by
  induction ms with
  | nil =>
    simp only [writeMembers, List.length_append, List.length_cons, List.length_nil]
    omega
  | cons m ms ih =>
    obtain ⟨name, j⟩ := m
    simp only [writeMembers, List.length_append, List.length_cons] at ih ⊢
    omega

section Brackets

variable {l : Layout} (hl : l.Spaced) {item : Parser Json} (k : Nat) (rest : List Char)

include hl

lemma delimited_writeItems (js : List Json) : Delimited (writeItems l k js ++ rest) := by
  cases js with
  | nil =>
    rw [writeItems, List.append_assoc]
    exact delimited_append (hl.lineBreak k) (delimited_cons (by simp) rest)
  | cons j js => exact delimited_cons (by simp) _

lemma delimited_writeMembers (ms : List (String × Json)) :
    Delimited (writeMembers l k ms ++ rest) := by
  cases ms with
  | nil =>
    rw [writeMembers, List.append_assoc]
    exact delimited_append (hl.lineBreak k) (delimited_cons (by simp) rest)
  | cons m ms => exact delimited_cons (by simp) _

lemma moreItems_write {js : List Json} (hread : ∀ j ∈ js, Reads l item j)
    (hbegin : ∀ j ∈ js, Begins l j) (fuel : Nat) (hfuel : js.length < fuel) :
    moreItems item fuel (writeItems l k js ++ rest) = .ok (js, rest) := by
  induction js generalizing fuel with
  | nil =>
    obtain ⟨fuel, rfl⟩ := Nat.exists_eq_succ_of_ne_zero (Nat.ne_of_gt hfuel)
    apply moreItems_close
    rw [writeItems, List.append_assoc, skip_append (hl.lineBreak k)]
    exact skip_cons (by decide) rest
  | cons j js ih =>
    obtain ⟨fuel, rfl⟩ := Nat.exists_eq_succ_of_ne_zero (Nat.ne_of_gt (Nat.zero_lt_of_lt hfuel))
    rw [List.forall_mem_cons] at hread hbegin
    obtain ⟨c, tail, hc, hspace, hclose⟩ := hbegin.1 (k + 1)
    have hj := hread.1 (k + 1) [] (writeItems l k js ++ rest) (by simp)
      (delimited_writeItems hl k rest js)
    rw [List.nil_append, hc] at hj
    have hcomma : skip (writeItems l k (j :: js) ++ rest) =
        ',' :: (l.lineBreak (k + 1) ++ (write l (k + 1) j ++ (writeItems l k js ++ rest))) := by
      rw [writeItems, List.cons_append, skip_cons (by decide)]
      simp only [List.append_assoc]
    have hfirst : skip (l.lineBreak (k + 1) ++ (write l (k + 1) j ++ (writeItems l k js ++ rest))) =
        c :: (tail ++ (writeItems l k js ++ rest)) := by
      rw [skip_append (hl.lineBreak (k + 1)), hc]
      exact skip_cons hspace _
    exact moreItems_comma hcomma hfirst hclose hj (ih hread.2 hbegin.2 fuel (by simpa using hfuel))

lemma items_write {js : List Json} (hread : ∀ j ∈ js, Reads l item j)
    (hbegin : ∀ j ∈ js, Begins l j) {body : List Char}
    (hbody : write l k (.array js) = '[' :: body) :
    items item (body ++ rest) = .ok (js, rest) := by
  cases js with
  | nil =>
    rw [write] at hbody
    obtain rfl := (List.cons.inj hbody).2
    exact items_close (skip_cons (by decide) rest)
  | cons j js =>
    rw [write] at hbody
    obtain rfl := (List.cons.inj hbody).2
    rw [List.forall_mem_cons] at hread hbegin
    obtain ⟨c, tail, hc, hspace, hclose⟩ := hbegin.1 (k + 1)
    have hj := hread.1 (k + 1) [] (writeItems l k js ++ rest) (by simp)
      (delimited_writeItems hl k rest js)
    rw [List.nil_append, hc] at hj
    have hfirst : skip (l.lineBreak (k + 1) ++ (write l (k + 1) j ++ writeItems l k js) ++ rest) =
        c :: (tail ++ (writeItems l k js ++ rest)) := by
      rw [List.append_assoc, skip_append (hl.lineBreak (k + 1)), hc]
      simp only [List.append_assoc, List.cons_append]
      exact skip_cons hspace _
    exact items_open hfirst hclose hj (moreItems_write hl k rest hread.2 hbegin.2 _
      (length_lt_writeItems l k rest js))

lemma member_write {j : Json} (hread : Reads l item j) (name : String)
    (hrest : Delimited rest) :
    member item (writeString name ++ (l.colon ++ (write l k j ++ rest))) =
      .ok ((name, j), rest) := by
  obtain ⟨spaces, hcolon, hspaces⟩ := hl.colon
  have hname := stringBody_escaped name.toList (l.colon ++ (write l k j ++ rest))
  have hskip : skip (l.colon ++ (write l k j ++ rest)) =
      ':' :: (spaces ++ (write l k j ++ rest)) := by
    rw [hcolon]
    exact skip_cons (by decide) _
  have hmember := member_read hname hskip (hread k spaces rest hspaces hrest)
  simpa only [writeString, List.cons_append, List.append_assoc, List.nil_append] using hmember

lemma moreMembers_write {ms : List (String × Json)} (hread : ∀ m ∈ ms, Reads l item m.2)
    (fuel : Nat) (hfuel : ms.length < fuel) :
    moreMembers item fuel (writeMembers l k ms ++ rest) = .ok (ms, rest) := by
  induction ms generalizing fuel with
  | nil =>
    obtain ⟨fuel, rfl⟩ := Nat.exists_eq_succ_of_ne_zero (Nat.ne_of_gt hfuel)
    apply moreMembers_close
    rw [writeMembers, List.append_assoc, skip_append (hl.lineBreak k)]
    exact skip_cons (by decide) rest
  | cons m ms ih =>
    obtain ⟨fuel, rfl⟩ := Nat.exists_eq_succ_of_ne_zero (Nat.ne_of_gt (Nat.zero_lt_of_lt hfuel))
    obtain ⟨name, j⟩ := m
    rw [List.forall_mem_cons] at hread
    have hm := member_write hl (k + 1) (writeMembers l k ms ++ rest) hread.1 name
      (delimited_writeMembers hl k rest ms)
    have hcomma : skip (writeMembers l k ((name, j) :: ms) ++ rest) =
        ',' :: (l.lineBreak (k + 1) ++ (writeString name ++ (l.colon ++ (write l (k + 1) j ++
          (writeMembers l k ms ++ rest))))) := by
      rw [writeMembers, List.cons_append, skip_cons (by decide)]
      simp only [List.append_assoc]
    have hquote : skip (l.lineBreak (k + 1) ++ (writeString name ++ (l.colon ++
        (write l (k + 1) j ++ (writeMembers l k ms ++ rest))))) = writeString name ++ (l.colon ++
          (write l (k + 1) j ++ (writeMembers l k ms ++ rest))) := by
      rw [skip_append (hl.lineBreak (k + 1))]
      exact skip_cons (by decide) _
    exact moreMembers_comma hcomma hquote hm (ih hread.2 fuel (by simpa using hfuel))

lemma members_write {ms : List (String × Json)} (hread : ∀ m ∈ ms, Reads l item m.2)
    {body : List Char} (hbody : write l k (.object ms) = '\x7b' :: body) :
    members item (body ++ rest) = .ok (ms, rest) := by
  cases ms with
  | nil =>
    rw [write] at hbody
    obtain rfl := (List.cons.inj hbody).2
    exact members_close (skip_cons (by decide) rest)
  | cons m ms =>
    obtain ⟨name, j⟩ := m
    rw [write] at hbody
    obtain rfl := (List.cons.inj hbody).2
    rw [List.forall_mem_cons] at hread
    have hm := member_write hl (k + 1) (writeMembers l k ms ++ rest) hread.1 name
      (delimited_writeMembers hl k rest ms)
    have hquote : skip (l.lineBreak (k + 1) ++ (writeString name ++ (l.colon ++
        (write l (k + 1) j ++ writeMembers l k ms))) ++ rest) = writeString name ++ (l.colon ++
          (write l (k + 1) j ++ (writeMembers l k ms ++ rest))) := by
      simp only [List.append_assoc]
      rw [skip_append (hl.lineBreak (k + 1))]
      exact skip_cons (by decide) _
    exact members_open hquote hm (moreMembers_write hl k rest hread.2 _
      (length_lt_writeMembers l k rest ms))

end Brackets

/-! ### Values -/

lemma scalar_word (rest : List Char) : scalar (['n', 'u', 'l', 'l'] ++ rest) = .ok (.null, rest) ∧
    scalar (['t', 'r', 'u', 'e'] ++ rest) = .ok (.bool true, rest) ∧
    scalar (['f', 'a', 'l', 's', 'e'] ++ rest) = .ok (.bool false, rest) := by
  exact ⟨rfl, rfl, rfl⟩

lemma scalar_string (text : String) (rest : List Char) :
    scalar (writeString text ++ rest) = .ok (.string text, rest) := by
  have h := stringBody_escaped text.toList rest
  simp [writeString, scalar, h, Except.map]

lemma scalar_number {literal : String} (h : NumberText literal.toList) {rest : List Char}
    (hrest : Delimited rest) :
    scalar (literal.toList ++ rest) = .ok (.number literal, rest) := by
  obtain ⟨c, tail, hc, hstart⟩ := h.start
  have hwhole := h.whole rest hrest.endsNumber
  rw [hc, List.cons_append] at hwhole ⊢
  rw [scalar]
  · rw [if_pos hstart, hwhole, ← hc]
    simp [Except.map]
  all_goals
    rintro rfl
    revert hstart
    decide

lemma numberText_head {c : Char} (h : c = '-' ∨ c.isDigit = true) : isSpace c = false ∧ c ≠ ']' ∧
    c ≠ '[' ∧ c ≠ '\x7b' := by
  have hne : ∀ d : Char, ¬(d = '-' ∨ d.isDigit = true) → c ≠ d := by
    rintro d hd rfl
    exact hd h
  refine ⟨?_, hne _ (by decide), hne _ (by decide), hne _ (by decide)⟩
  simp [isSpace, hne ' ' (by decide), hne '\n' (by decide), hne '\t' (by decide),
    hne '\r' (by decide)]

lemma begins_of_fits {depth : Nat} {j : Json} (h : Fits depth j) (l : Layout) : Begins l j := by
  intro k
  cases h with
  | null => exact ⟨_, _, rfl, by decide, by decide⟩
  | bool _ b => cases b <;> exact ⟨_, _, rfl, by decide, by decide⟩
  | number _ h =>
    obtain ⟨c, tail, hc, hstart⟩ := h.start
    obtain ⟨hspace, hclose, _, _⟩ := numberText_head hstart
    exact ⟨c, tail, hc, hspace, hclose⟩
  | string _ text => exact ⟨_, _, rfl, by decide, by decide⟩
  | @array _ js h => cases js <;> exact ⟨_, _, rfl, by decide, by decide⟩
  | @object _ ms h => rcases ms with _ | ⟨⟨name, j⟩, ms⟩ <;> exact ⟨_, _, rfl, by decide, by decide⟩

/-- Where no bracket opens, a value is a scalar. -/
lemma value_scalar (depth : Nat) {c : Char} {cs : List Char} (hspace : isSpace c = false)
    (harray : c ≠ '[') (hobject : c ≠ '\x7b') : value depth (c :: cs) = scalar (c :: cs) := by
  cases depth <;>
  · rw [value, skip_cons hspace]
    split <;> simp_all

/-- The reader with a bound on open brackets undoes the writer on every value within it. -/
theorem value_write {l : Layout} (hl : l.Spaced) {depth : Nat} {j : Json} (h : Fits depth j) :
    Reads l (value depth) j := by
  induction h with
  | null depth =>
    intro k spaces rest hspaces _
    rw [value_skip depth hspaces, write, List.cons_append,
      value_scalar depth (by decide) (by decide) (by decide)]
    exact (scalar_word rest).1
  | bool depth b =>
    intro k spaces rest hspaces _
    rw [value_skip depth hspaces]
    cases b with
    | true =>
      rw [write, List.cons_append, value_scalar depth (by decide) (by decide) (by decide)]
      exact (scalar_word rest).2.1
    | false =>
      rw [write, List.cons_append, value_scalar depth (by decide) (by decide) (by decide)]
      exact (scalar_word rest).2.2
  | @number literal depth h =>
    intro k spaces rest hspaces hrest
    have hscalar := scalar_number h hrest
    obtain ⟨c, tail, hc, hstart⟩ := h.start
    obtain ⟨hspace, _, harray, hobject⟩ := numberText_head hstart
    rw [value_skip depth hspaces, write]
    rw [hc, List.cons_append] at hscalar ⊢
    rw [value_scalar depth hspace harray hobject, hscalar]
  | string depth text =>
    intro k spaces rest hspaces _
    rw [value_skip depth hspaces, write, writeString, List.cons_append, List.cons_append,
      value_scalar depth (by decide) (by decide) (by decide)]
    exact scalar_string text rest
  | @array depth js h ih =>
    intro k spaces rest hspaces _
    obtain ⟨body, hbody⟩ : ∃ body, write l k (.array js) = '[' :: body := by
      cases js <;> exact ⟨_, rfl⟩
    have hitems := items_write hl k rest ih (fun j hj => begins_of_fits (h j hj) l) hbody
    rw [value_skip _ hspaces, hbody, List.cons_append, value, skip_cons (by decide)]
    simp only [hitems]
    rfl
  | @object depth ms h ih =>
    intro k spaces rest hspaces _
    obtain ⟨body, hbody⟩ : ∃ body, write l k (.object ms) = '\x7b' :: body := by
      rcases ms with _ | ⟨⟨name, j⟩, ms⟩ <;> exact ⟨_, rfl⟩
    have hmembers := members_write hl k rest ih hbody
    rw [value_skip _ hspaces, hbody, List.cons_append, value, skip_cons (by decide)]
    simp only [hmembers]
    rfl

/-- White space after the text of a value does not change what is read. -/
theorem read_write_append {l : Layout} (hl : l.Spaced) {j : Json} (h : Fits maxDepth j) (k : Nat)
    (spaces : List Char) (hspaces : ∀ c ∈ spaces, isSpace c = true) :
    read (String.ofList (write l k j ++ spaces)) = .ok j := by
  have hdelimited := delimited_append hspaces delimited_nil
  have hskip : skip spaces = [] := by
    rw [← List.append_nil spaces]
    exact skip_append hspaces []
  rw [List.append_nil] at hdelimited
  have hvalue := value_write hl h k [] spaces (by simp) hdelimited
  rw [List.nil_append] at hvalue
  have hall : readAll (write l k j ++ spaces) = .ok j := by
    simp [readAll, hvalue, hskip, Bind.bind, Except.bind, Pure.pure, Except.pure]
  rw [read, String.toList_ofList, hall]

/-- A value within the reader's bound is read back from its text in any spaced layout. -/
theorem read_write {l : Layout} (hl : l.Spaced) {j : Json} (h : Fits maxDepth j) (k : Nat) :
    read (String.ofList (write l k j)) = .ok j := by
  have happend := read_write_append hl h k [] (by simp)
  rwa [List.append_nil] at happend

/-- So values within the bound that have the same text are the same. -/
theorem ofList_write_inj {l : Layout} (hl : l.Spaced) {j j' : Json} (h : Fits maxDepth j)
    (h' : Fits maxDepth j') (k : Nat) :
    String.ofList (write l k j) = String.ofList (write l k j') ↔ j = j' := by
  constructor
  · intro htext
    have hread := read_write hl h k
    rw [htext, read_write hl h' k] at hread
    exact (Except.ok.inj hread).symm
  · rintro rfl
    rfl

theorem read_text {j : Json} (h : Fits maxDepth j) : read j.text = .ok j :=
  read_write Layout.compact_spaced h 0

end Backlog.Json
