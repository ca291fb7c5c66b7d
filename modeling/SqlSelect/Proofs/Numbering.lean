import SqlSelect.Proofs.Draft
import SqlSelect.Proofs.Refinement
import Mathlib.Data.List.Chain

/-!
# Numbered placeholders

Where a dialect numbers its placeholders, the k-th `?` of the text becomes `$` and the number k. The
scanner reads such a number back as long as no digit follows it, so the numbers of a statement are
those from one to the number of its values, and turning them back into `?` gives the text before.
-/

namespace SqlSelect

open Placeholder

/-- A digit of the text itself. -/
def Placeholder.Token.isDigit : Token → Bool
  | .char c => c.isDigit
  | _ => false

/-- No `?` outside quotes is directly followed by a digit. -/
def Placeholder.MarksApart (sql : String) : Prop :=
  (scan sql).IsChain fun a b => a = .mark → b.isDigit = false

instance (sql : String) : Decidable (MarksApart sql) :=
  inferInstanceAs (Decidable (List.IsChain _ _))

/-- All copied texts close their quotes and have no `$` outside them; operators have no `?` outside
them, and fragments none before a digit. -/
def Policy.numerable : Policy where
  fragment f := QuoteClosed f.sql ∧ DollarFree f.sql ∧ MarksApart f.sql
  operator s := QuoteClosed s ∧ DollarFree s ∧ MarkFree s
  seed s := QuoteClosed s ∧ DollarFree s

/-! ## Numbering a draft -/

namespace Draft

/-- The tokens of a draft whose values are numbered on from `seen`. -/
def numberedTokens (seen : Nat) : Draft → List Token
  | [] => []
  | .char c :: d => .char c :: numberedTokens seen d
  | .value _ :: d => .dollar (Nat.toDigits 10 (seen + 1)) :: numberedTokens (seen + 1) d

/-- The text of a draft whose values are numbered on from `seen`. -/
def numberedText (seen : Nat) (d : Draft) : List Char :=
  (numberedTokens seen d).flatMap Token.spelling

/-- No value is directly followed by a digit. -/
def Spaced (d : Draft) : Prop :=
  (d.map Piece.token).IsChain fun a b => a = .mark → b.isDigit = false

/-- From a `$` on, the first token that is completed is a number. -/
theorem completed_dollar_ne (digits : List Char) (cs : List Char) (c : Char) (ts : List Token) :
    Mode.completed (.dollar digits) cs ≠ .char c :: ts := by
  induction cs generalizing digits with
  | nil => simp [Mode.completed]
  | cons x cs ih =>
    simp only [Mode.completed, Mode.step]
    split
    · exact ih _
    · simp

/-- The scanner reads the number after a `$` to its end. -/
theorem scanFrom_digits {ds : List Char} (hds : ∀ c ∈ ds, c.isDigit = true)
    (digits cs : List Char) :
    scanFrom (.dollar digits) (ds ++ cs) = scanFrom (.dollar (digits ++ ds)) cs := by
  induction ds generalizing digits with
  | nil => simp
  | cons d ds ih =>
    have hd := hds d List.mem_cons_self
    simp only [List.cons_append, scanFrom, Mode.step, hd, if_true, List.nil_append]
    rw [ih fun c hc => hds c (List.mem_cons_of_mem _ hc), List.append_assoc]
    rfl

/-- A number ends where no digit follows. -/
theorem scanFrom_number {digits cs : List Char} (h : ∀ c ∈ cs.head?, c.isDigit = false) :
    scanFrom (.dollar digits) cs = .dollar digits :: scanFrom .outside cs := by
  cases cs with
  | nil => rfl
  | cons c cs =>
    have hc := h c rfl
    simp [scanFrom, Mode.step, hc]

theorem head_numberedText {seen : Nat} {d : Draft} (h : ∀ p ∈ d.head?, p.token.isDigit = false) :
    ∀ c ∈ (numberedText seen d).head?, c.isDigit = false := by
  cases d with
  | nil => simp [numberedText, numberedTokens]
  | cons p d =>
    cases p with
    | char c =>
      rintro _ ⟨⟩
      exact h (.char c) rfl
    | value v =>
      rintro _ ⟨⟩
      rfl

/-- A character that is read as it stands is not the beginning of a number. -/
theorem step_of_completed_char {m : Mode} {c : Char} {cs : List Char} {ts : List Token}
    (hm : ∀ ds, m ≠ .dollar ds) (h : m.completed (c :: cs) = .char c :: ts) :
    ∃ m', m.step c = (m', [.char c]) ∧ (∀ ds, m' ≠ .dollar ds) ∧ m'.completed cs = ts := by
  cases m with
  | outside =>
    simp only [Mode.completed, Mode.step, Mode.stepOutside] at h ⊢
    by_cases hq : isQuote c = true
    · rw [if_pos hq] at h ⊢
      exact ⟨.quoted c, rfl, by simp, List.tail_eq_of_cons_eq h⟩
    · rw [if_neg hq] at h ⊢
      by_cases hmark : c = '?'
      · simp [hmark] at h
      · rw [if_neg hmark] at h ⊢
        by_cases hdollar : c = '$'
        · rw [if_pos hdollar] at h
          exact absurd h (completed_dollar_ne [] cs c ts)
        · rw [if_neg hdollar] at h ⊢
          exact ⟨.outside, rfl, by simp, List.tail_eq_of_cons_eq h⟩
  | quoted q =>
    refine ⟨_, rfl, ?_, List.tail_eq_of_cons_eq h⟩
    intro ds
    split <;> simp
  | dollar ds => exact absurd rfl (hm ds)

/-- A `?` that is read as a mark stands outside quotes. -/
theorem outside_of_completed_mark {m : Mode} {cs : List Char} {ts : List Token}
    (hm : ∀ ds, m ≠ .dollar ds) (h : m.completed ('?' :: cs) = .mark :: ts) :
    m = .outside ∧ Mode.completed .outside cs = ts := by
  cases m with
  | outside => exact ⟨rfl, List.tail_eq_of_cons_eq h⟩
  | quoted q => cases h
  | dollar ds => exact absurd rfl (hm ds)

/-- The scanner finds the numbers of a draft where it found its marks. -/
theorem scanFrom_numberedText {d : Draft} (hs : d.Spaced) {m : Mode} (hm : ∀ ds, m ≠ .dollar ds)
    (h : m.completed (sql d) = d.map Piece.token) (seen : Nat) :
    scanFrom m (numberedText seen d) = numberedTokens seen d := by
  induction d generalizing m seen with
  | nil =>
    cases m with
    | outside => rfl
    | quoted q => rfl
    | dollar ds => exact absurd rfl (hm ds)
  | cons p d ih =>
    have htail : Spaced d := hs.tail
    cases p with
    | char c =>
      obtain ⟨m', hstep, hm', hd⟩ := step_of_completed_char (c := c) hm h
      have hrest := ih htail hm' hd seen
      show scanFrom m (c :: numberedText seen d) = .char c :: numberedTokens seen d
      rw [scanFrom, hstep]
      exact congrArg (Token.char c :: ·) hrest
    | value v =>
      obtain ⟨rfl, hd⟩ := outside_of_completed_mark hm h
      have hrest := ih htail hm hd (seen + 1)
      have hdigits : ∀ c ∈ Nat.toDigits 10 (seen + 1), c.isDigit = true :=
        fun c hc => Nat.isDigit_of_mem_toDigits (by decide) (by decide) hc
      have hhead : ∀ p ∈ d.head?, p.token.isDigit = false := by
        intro p hp
        refine (List.isChain_cons.mp hs).1 p.token ?_ rfl
        rw [List.head?_map]
        exact Option.mem_map_of_mem _ hp
      show scanFrom (.dollar []) (Nat.toDigits 10 (seen + 1) ++ numberedText (seen + 1) d) = _
      rw [scanFrom_digits hdigits, scanFrom_number (head_numberedText hhead), hrest]
      rfl

/-- Numbering the marks of a draft. -/
theorem replaceFrom_tokens_number {f : Placeholder → Option String}
    (hf : ∀ n, f (.positional n) = some ("$" ++ Nat.repr n)) (d : Draft) (seen : Nat) :
    replaceFrom f seen (d.map Piece.token) = numberedText seen d := by
  induction d generalizing seen with
  | nil => rfl
  | cons p d ih =>
    cases p with
    | char c => exact congrArg (c :: ·) (ih seen)
    | value v =>
      have hspelling : ("$" ++ Nat.repr (seen + 1)).toList = '$' :: Nat.toDigits 10 (seen + 1) := by
        rw [String.toList_append, Nat.toList_repr]
        rfl
      rw [List.map_cons, Piece.token, replaceFrom, hf, ih, Option.map_some, Option.getD_some,
        hspelling]
      rfl

/-- Numbering the text of a draft, and what the scanner finds in the result. -/
theorem scan_number {d : Draft} (hs : d.Spaced)
    (hd : Mode.completed .outside (sql d) = d.map Piece.token) {text : String}
    (ht : scan text = d.map Piece.token) : scan (number text) = numberedTokens 0 d := by
  have htext : (number text).toList = numberedText 0 d := by
    rw [number, replace, String.toList_ofList, ht]
    exact replaceFrom_tokens_number (fun _ => rfl) d 0
  rw [scan, htext]
  exact scanFrom_numberedText hs (by simp) hd 0

theorem Legible.scan_number {d : Draft} (h : d.Legible) (hs : d.Spaced) {text : String}
    (ht : text.toList = sql d) : scan (number text) = numberedTokens 0 d :=
  Draft.scan_number hs h.completed_eq (h.scan_eq ht)

/-! ## What the numbers say -/

theorem number_toDigits {n : Nat} (h : n < UInt64.size) : number? (Nat.toDigits 10 n) = some n := by
  have hvalue : digitsValue (Nat.toDigits 10 n) = n := Nat.ofDigitChars_ten_toDigits
  have hne : (Nat.toDigits 10 n).isEmpty = false := by
    rw [List.isEmpty_eq_false_iff]
    exact Nat.toDigits_ne_nil
  rw [number?, hvalue, hne, Bool.false_or, if_neg]
  simpa using h

/-- The placeholders of a numbered draft are the numbers in order. -/
theorem placeholdersFrom_numberedTokens (d : Draft) (seen marks : Nat)
    (h : seen + d.values.length < UInt64.size) :
    placeholdersFrom marks (numberedTokens seen d) =
      (List.range' (seen + 1) d.values.length).map .numbered := by
  induction d generalizing seen with
  | nil => rfl
  | cons p d ih =>
    cases p with
    | char c => exact ih seen h
    | value v =>
      have hlength : (values (.value v :: d)).length = (values d).length + 1 := rfl
      rw [hlength] at h ⊢
      rw [numberedTokens, placeholdersFrom, number_toDigits (by omega), ih (seen + 1) (by omega),
        List.range'_succ]
      rfl

theorem mark_notMem_numberedTokens (d : Draft) (seen : Nat) : .mark ∉ numberedTokens seen d := by
  induction d generalizing seen with
  | nil => simp [numberedTokens]
  | cons p d ih => cases p <;> simp [numberedTokens, ih]

/-- Writing `?` for every number gives the statement with marks. -/
theorem replaceFrom_numberedTokens {f : Placeholder → Option String}
    (hf : ∀ n, f (.numbered n) = some "?") (d : Draft) (seen marks : Nat)
    (h : seen + d.values.length < UInt64.size) :
    replaceFrom f marks (numberedTokens seen d) = sql d := by
  induction d generalizing seen with
  | nil => rfl
  | cons p d ih =>
    cases p with
    | char c => exact congrArg (c :: ·) (ih seen h)
    | value v =>
      have hlength : (values (.value v :: d)).length = (values d).length + 1 := rfl
      rw [hlength] at h
      rw [numberedTokens, replaceFrom, number_toDigits (by omega), ih (seen + 1) (by omega)]
      simp only [Option.bind_some, hf, Option.map_some, Option.getD_some]
      rfl

/-! ## Drafts without digits after values -/

theorem mark_notMem_of_values_eq_nil {d : Draft} (h : values d = []) :
    .mark ∉ d.map Piece.token := by
  intro hmark
  obtain ⟨p, hp, htoken⟩ := List.mem_map.mp hmark
  cases p with
  | char c => cases htoken
  | value v =>
    have hv : v ∈ values d := List.mem_filterMap.mpr ⟨_, hp, rfl⟩
    rw [h] at hv
    cases hv

theorem spaced_of_values_eq_nil {d : Draft} (h : values d = []) : Spaced d := by
  refine List.Pairwise.isChain (List.pairwise_of_forall_mem_list fun a ha b _ hmark => ?_)
  rw [hmark] at ha
  exact absurd ha (mark_notMem_of_values_eq_nil h)

theorem Spaced.append {a b : Draft} (ha : Spaced a) (hb : Spaced b)
    (h : values a = [] ∨ ∀ p ∈ b.head?, p.token.isDigit = false) : Spaced (a ++ b) := by
  rw [Spaced, List.map_append, List.isChain_append]
  refine ⟨ha, hb, fun x hx y hy hmark => ?_⟩
  rcases h with h | h
  · rw [hmark] at hx
    exact absurd (List.mem_of_getLast? hx) (mark_notMem_of_values_eq_nil h)
  · rw [List.head?_map] at hy
    obtain ⟨p, hp, rfl⟩ := Option.map_eq_some_iff.mp hy
    exact h p hp

theorem Spaced.trim {d : Draft} (h : Spaced d) : Spaced d.trim := by
  obtain ⟨a, b, hd, _, _⟩ := exists_trim d
  refine List.IsChain.infix h ⟨a.map Piece.token, b.map Piece.token, ?_⟩
  rw [← List.map_append, ← List.map_append, ← hd]

/-- A text that does not begin with a digit is the text of a draft that does not. -/
theorem Reads.head_isDigit {d : Draft} {s : String} {vs : List Value} (h : d.Reads s vs)
    (hs : StartsPlain s) : ∀ p ∈ d.head?, p.token.isDigit = false := by
  intro p hp
  cases p with
  | value v => rfl
  | char c =>
    have hhead : s.toList.head? = some c := by
      rw [h.sql_eq, sql, List.head?_map]
      exact Option.mem_map_of_mem Piece.mark hp
    rw [StartsPlain, hhead] at hs
    exact hs

end Draft

/-- The text and the values of a draft that can be numbered. -/
structure Numerable (s : String) (vs : List Value) (d : Draft) : Prop where
  reads : d.Reads s vs
  legible : d.Legible
  spaced : d.Spaced

theorem Numerable.text {s : String} (h : Inert s) : Numerable s [] (.ofText s) :=
  ⟨Draft.reads_ofText s, Draft.legible_ofText h,
    Draft.spaced_of_values_eq_nil (Draft.values_ofText s)⟩

theorem tracks_numerable : Tracks .postgres .numerable .draft Numerable where
  text := Numerable.text
  operator h := Numerable.text ((inert_iff _).mpr h)
  random _ := Numerable.text (by decide : Inert "RANDOM()")
  value v := ⟨Draft.reads_value v, Draft.legible_value v, List.isChain_singleton _⟩
  fragment := by
    intro f hf hcount
    obtain ⟨hquotes, hdollars, hmarks⟩ := hf
    refine ⟨Draft.reads_ofFragment hcount, Draft.legible_ofFragment hquotes hdollars hcount, ?_⟩
    show List.IsChain _ ((Draft.ofFragment f).map Piece.token)
    rw [Draft.map_token_ofFragment hdollars hcount]
    exact hmarks
  append ha hb h := by
    refine ⟨ha.reads.append hb.reads, ha.legible.append hb.legible, ha.spaced.append hb.spaced ?_⟩
    rcases h with h | h
    · exact Or.inl (ha.reads.values_eq.symm.trans h)
    · exact Or.inr (hb.reads.head_isDigit h)
  trim h := ⟨h.reads.trim, h.legible.trim, h.spaced.trim⟩
  isEmpty_eq h := h.reads.isEmpty_eq
  values_eq_nil h := h.reads.values_eq_nil
  operator_eq := (by decide : QuoteClosed "=" ∧ DollarFree "=" ∧ MarkFree "=")

/-- The placeholders of a statement are numbered from one to the number of its values, no `?` is
left, and with `?` for every number the statement is the text as it was written. -/
theorem numbered_compile {c : Compiler} (hd : c.dialect = .postgres) (hr : c.registry = .standard)
    {q : Query} (hq : q.Meets .numerable) {r : Statement} (h : (c.compile q).outcome = .ok r)
    -- a number is read as one of 64 bits, and no statement in memory has more values than that
    (hsize : r.bindings.size < UInt64.size) :
    all r.sql = (List.range' 1 r.bindings.size).map .numbered ∧ count r.sql = 0 ∧
      ∃ text ctx, c.select (c.compile q).query {} = .ok text ctx ∧
        replace (fun | .numbered _ => some "?" | .positional _ => none) r.sql = text := by
  have hbuiltin : c.dialect ∈ Dialect.builtin := by simp [hd, Dialect.builtin]
  have htracks : Tracks c.dialect .numerable .draft Numerable := hd ▸ tracks_numerable
  obtain ⟨text, ctx, hselect, rfl, hn⟩ := htracks.compile hbuiltin hr hq h
  have hfinish : c.dialect.finish text ctx.bindings = number text := by rw [hd]; rfl
  have hscan := hn.legible.scan_number hn.spaced hn.reads.sql_eq
  have hvalues : (Assembly.draft.query c q).values.length = ctx.bindings.size := by
    rw [← hn.reads.values_eq, Array.length_toList]
  have hlimit : 0 + (Assembly.draft.query c q).values.length < UInt64.size := by
    rw [hvalues, Nat.zero_add]
    exact hsize
  simp only [hfinish]
  refine ⟨?_, ?_, text, ctx, hselect, ?_⟩
  · rw [all, hscan, Draft.placeholdersFrom_numberedTokens _ 0 0 hlimit, hvalues]
  · rw [count, hscan, List.countP_eq_zero]
    intro t ht hmark
    exact Draft.mark_notMem_numberedTokens _ 0 (eq_of_beq hmark ▸ ht)
  · rw [replace, hscan, Draft.replaceFrom_numberedTokens (fun _ => rfl) _ 0 0 hlimit,
      ← hn.reads.sql_eq, String.ofList_toList]

theorem numbered_compile_sample :
    ∃ r, (Compiler.compile { dialect := .postgres } (.sample .null .null)).outcome = .ok r ∧
      all r.sql = [.numbered 1, .numbered 2] ∧ count r.sql = 0 := by
  have hq : (Query.sample .null .null).Meets .numerable :=
    Query.sample_meets tracks_numerable.operator_eq
      (by decide : QuoteClosed "f(?, '?')" ∧ DollarFree "f(?, '?')" ∧ MarksApart "f(?, '?')")
  refine ⟨_, rfl, ?_⟩
  obtain ⟨hall, hcount, _⟩ :=
    numbered_compile (c := { dialect := .postgres }) rfl rfl hq rfl (by decide)
  exact ⟨hall, hcount⟩

end SqlSelect
