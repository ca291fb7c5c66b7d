import SqlSelect.Proofs.Draft
import SqlSelect.Proofs.Refinement

/-!
# When marks and values balance

A fragment is checked on its own: it must have as many `?` outside quotes as values. Operators and
seeds are copied without a check, and no check looks at the quotes that a text leaves open. So the
`?` of a statement and its values can differ in number, in exactly two ways: a `?` of a copied text
that stands for no value, and a value whose `?` ends up inside quotes. If every copied text closes
its quotes and no operator and no seed has a `?` outside them, the numbers agree.
-/

namespace SqlSelect

open Placeholder

/-! ## The open quote -/

namespace Placeholder

/-- The quote that is open after one more character. -/
def nextQuote (quote? : Option Char) (c : Char) : Option Char :=
  match quote? with
  | none => if isQuote c then some c else none
  | some quote => if c = quote then none else some quote

theorem quote_stepOutside (c : Char) : (Mode.stepOutside c).1.quote? = nextQuote none c := by
  unfold Mode.stepOutside nextQuote
  split
  · rfl
  · split
    · rfl
    · split <;> rfl

theorem quote_step (m : Mode) (c : Char) : (m.step c).1.quote? = nextQuote m.quote? c := by
  cases m with
  | outside => exact quote_stepOutside c
  | quoted q =>
    by_cases hc : c = q <;> simp [Mode.step, Mode.quote?, nextQuote, hc]
  | dollar digits =>
    simp only [Mode.step]
    split
    · rename_i hdigit
      have hq : isQuote c = false := by
        by_contra hq
        have := isOrdinary_of_class (p := Char.isDigit) (by decide) hdigit
        simp [isOrdinary, hq] at this
      simp [Mode.quote?, nextQuote, hq]
    · exact quote_stepOutside c

theorem quote_after (m : Mode) (cs : List Char) :
    (m.after cs).quote? = cs.foldl nextQuote m.quote? := by
  induction cs generalizing m with
  | nil => rfl
  | cons c cs ih => rw [Mode.after, ih, quote_step, List.foldl_cons]

/-- A quote stays open while it is not met again. -/
theorem foldl_nextQuote_of_notMem {quote : Char} {cs : List Char} (h : quote ∉ cs) :
    cs.foldl nextQuote (some quote) = some quote := by
  have hafter := quote_after (.quoted quote) cs
  rw [after_quoted_of_notMem h] at hafter
  exact hafter.symm

theorem isQuote_of_foldl {quote : Char} {cs : List Char}
    (h : cs.foldl nextQuote none = some quote) : isQuote quote = true := by
  have hafter := quote_after .outside cs
  rw [show Mode.quote? .outside = none from rfl, h] at hafter
  cases hm : Mode.after .outside cs with
  | outside =>
    rw [hm] at hafter
    cases hafter
  | quoted q =>
    rw [hm] at hafter
    cases hafter
    exact isQuote_of_after (by rintro q ⟨⟩) hm
  | dollar digits =>
    rw [hm] at hafter
    cases hafter

/-- A `?` is a mark exactly when no quote is open. -/
theorem countP_mark_step (m : Mode) (c : Char) :
    (m.step c).2.countP (· == .mark) = if m.quote? = none ∧ c = '?' then 1 else 0 := by
  have hout : ∀ c, (Mode.stepOutside c).2.countP (· == .mark) = if c = '?' then 1 else 0 := by
    intro c
    by_cases hc : c = '?'
    · rw [hc]
      rfl
    · simp only [Mode.stepOutside, if_neg hc]
      split
      · rfl
      · split <;> rfl
  cases m with
  | outside => simpa [Mode.step, Mode.quote?] using hout c
  | quoted q => simp [Mode.step, Mode.quote?]
  | dollar digits =>
    simp only [Mode.step, Mode.quote?, true_and]
    split
    · rename_i hdigit
      have hc : c ≠ '?' := by
        rintro rfl
        cases hdigit
      simp [hc]
    · simpa using hout c

end Placeholder

/-! ## Strays and hidden values -/

namespace Draft

/-- The `?` of the text itself that are met outside quotes. -/
def stray (quote? : Option Char) : Draft → Nat
  | [] => 0
  | .char c :: d => (if quote? = none ∧ c = '?' then 1 else 0) + stray (nextQuote quote? c) d
  | .value _ :: d => stray (nextQuote quote? '?') d

/-- The values that are met inside quotes. -/
def hidden (quote? : Option Char) : Draft → Nat
  | [] => 0
  | .char c :: d => hidden (nextQuote quote? c) d
  | .value _ :: d => (if quote? = none then 0 else 1) + hidden (nextQuote quote? '?') d

/-- Marks that are found and values that are hidden are the values and the strays. -/
theorem countP_scanFrom (d : Draft) (m : Mode) :
    (scanFrom m (sql d)).countP (· == .mark) + hidden m.quote? d =
      (values d).length + stray m.quote? d := by
  induction d generalizing m with
  | nil => cases m <;> rfl
  | cons p d ih =>
    cases p with
    | char c =>
      have htail := ih (m.step c).1
      have hsql : sql (.char c :: d) = c :: sql d := rfl
      have hvalues : values (.char c :: d) = values d := rfl
      rw [quote_step] at htail
      rw [hsql, hvalues, scanFrom, List.countP_append, countP_mark_step, hidden, stray]
      omega
    | value v =>
      have htail := ih (m.step '?').1
      have hsql : sql (.value v :: d) = '?' :: sql d := rfl
      have hvalues : (values (.value v :: d)).length = (values d).length + 1 := rfl
      rw [quote_step] at htail
      rw [hsql, hvalues, scanFrom, List.countP_append, countP_mark_step, hidden, stray]
      by_cases hm : m.quote? = none
      · rw [if_pos ⟨hm, rfl⟩, if_pos hm]
        omega
      · rw [if_neg fun h => hm h.1, if_neg hm]
        omega

theorem count_reads {d : Draft} {s : String} {vs : List Value} (h : d.Reads s vs) :
    count s + hidden none d = vs.length + stray none d := by
  have hlaw := countP_scanFrom d .outside
  rw [← h.sql_eq, ← h.values_eq] at hlaw
  exact hlaw

theorem stray_append (quote? : Option Char) (a b : Draft) :
    stray quote? (a ++ b) = stray quote? a + stray ((sql a).foldl nextQuote quote?) b := by
  induction a generalizing quote? with
  | nil => simp [stray, sql]
  | cons p a ih =>
    cases p with
    | char c =>
      rw [List.cons_append, stray, stray, ih, Nat.add_assoc]
      rfl
    | value v =>
      rw [List.cons_append, stray, stray, ih]
      rfl

theorem hidden_append (quote? : Option Char) (a b : Draft) :
    hidden quote? (a ++ b) = hidden quote? a + hidden ((sql a).foldl nextQuote quote?) b := by
  induction a generalizing quote? with
  | nil => simp [hidden, sql]
  | cons p a ih =>
    cases p with
    | char c =>
      rw [List.cons_append, hidden, hidden, ih]
      rfl
    | value v =>
      rw [List.cons_append, hidden, hidden, ih, Nat.add_assoc]
      rfl

/-- As many strays as hidden values, and no quote left open. -/
structure Balanced (d : Draft) : Prop where
  stray_eq : stray none d = hidden none d
  closed : (sql d).foldl nextQuote none = none

theorem Balanced.append {a b : Draft} (ha : Balanced a) (hb : Balanced b) : Balanced (a ++ b) := by
  constructor
  · rw [stray_append, hidden_append, ha.closed, ha.stray_eq, hb.stray_eq]
  · rw [sql_append, List.foldl_append, ha.closed, hb.closed]

/-- A text that closes its quotes and has as many marks as values. -/
theorem balanced_of_reads {d : Draft} {s : String} {vs : List Value} (h : d.Reads s vs)
    (hq : QuoteClosed s) (hcount : count s = vs.length) : Balanced d := by
  have hlaw := count_reads h
  rw [QuoteClosed, quote_after, h.sql_eq] at hq
  exact ⟨by omega, hq⟩

/-- Blanks are neither marks nor values. -/
theorem stray_of_isBlank {d : Draft} (h : ∀ p ∈ d, p.isBlank = true) (quote? : Option Char) :
    stray quote? d = 0 ∧ hidden quote? d = 0 := by
  induction d generalizing quote? with
  | nil => exact ⟨rfl, rfl⟩
  | cons p d ih =>
    have hp := h p List.mem_cons_self
    have hd := ih fun p hp => h p (List.mem_cons_of_mem _ hp)
    cases p with
    | value v => simp [isBlank_value] at hp
    | char c =>
      have hc : c ≠ '?' := by
        rintro rfl
        exact absurd hp (by decide)
      rw [stray, hidden, if_neg fun h => hc h.2, Nat.zero_add]
      exact hd (nextQuote quote? c)

theorem isQuote_of_isBlank {d : Draft} (h : ∀ p ∈ d, p.isBlank = true) :
    ∀ c ∈ sql d, isQuote c = false := by
  intro c hc
  obtain ⟨p, hp, rfl⟩ := List.mem_map.mp hc
  have hordinary := isOrdinary_of_isBlank (h p hp)
  simp only [isOrdinary, Bool.and_eq_true, Bool.not_eq_true'] at hordinary
  exact hordinary.1.1

theorem Balanced.trim {d : Draft} (h : Balanced d) : Balanced d.trim := by
  obtain ⟨a, b, hd, ha, hb⟩ := exists_trim d
  have hopen : (sql a).foldl nextQuote none = none := by
    have hafter := quote_after .outside (sql a)
    rw [(legible_of_isBlank ha).after_eq] at hafter
    exact hafter.symm
  obtain ⟨heq, hclosed⟩ := h
  rw [hd, stray_append, hidden_append, stray_append, hidden_append, hopen,
    (stray_of_isBlank ha none).1, (stray_of_isBlank ha none).2, (stray_of_isBlank hb _).1,
    (stray_of_isBlank hb _).2] at heq
  rw [hd, sql_append, sql_append, List.foldl_append, List.foldl_append, hopen] at hclosed
  refine ⟨by omega, ?_⟩
  cases hq : (sql d.trim).foldl nextQuote none with
  | none => rfl
  | some q =>
    have hnot : q ∉ sql b := fun hmem => by
      have := isQuote_of_isBlank hb q hmem
      rw [isQuote_of_foldl hq] at this
      cases this
    rw [hq, foldl_nextQuote_of_notMem hnot] at hclosed
    cases hclosed

end Draft

/-! ## Statements -/

/-- Every copied text closes its quotes, and operators and seeds have no `?` outside them. -/
def Policy.closed : Policy where
  fragment f := QuoteClosed f.sql
  operator s := QuoteClosed s ∧ MarkFree s
  seed s := QuoteClosed s ∧ MarkFree s

/-- Without any condition, a statement is that of the draft of its query. -/
theorem tracks_reads (d : Dialect) : Tracks d .any .draft fun s vs d => d.Reads s vs where
  text _ := Draft.reads_ofText _
  operator _ := Draft.reads_ofText _
  random _ := Draft.reads_ofText _
  value := Draft.reads_value
  fragment _ := Draft.reads_ofFragment
  append ha hb _ := ha.append hb
  trim h := h.trim
  isEmpty_eq h := h.isEmpty_eq
  values_eq_nil h := h.values_eq_nil
  operator_eq := trivial

theorem reads_balanced_ofText {s : String} (h : QuoteClosed s ∧ MarkFree s) :
    (Draft.ofText s).Reads s [] ∧ (Draft.ofText s).Balanced := by
  have hread := Draft.reads_ofText s
  refine ⟨hread, Draft.balanced_of_reads hread h.1 ?_⟩
  rw [Placeholder.count, List.length_nil, List.countP_eq_zero]
  intro t ht hmark
  exact h.2 (eq_of_beq hmark ▸ ht)

theorem reads_balanced_inert {s : String} (h : Inert s) :
    (Draft.ofText s).Reads s [] ∧ (Draft.ofText s).Balanced :=
  reads_balanced_ofText ⟨((inert_iff s).mp h).1, ((inert_iff s).mp h).2.2⟩

theorem balanced_random {d : Dialect} (hd : d ∈ [Dialect.generic, .mysql, .sqlite])
    {seed? : Option String} (h : ∀ seed ∈ seed?, Policy.closed.seed seed) :
    (Draft.ofText (d.random seed?)).Balanced := by
  rcases Dialect.random_cases hd seed? with hrandom | hrandom <;> rw [hrandom]
  · exact (reads_balanced_inert (by decide)).2
  · rw [Draft.ofText_append, Draft.ofText_append]
    refine Draft.Balanced.append (Draft.Balanced.append (reads_balanced_inert (by decide)).2 ?_)
      (reads_balanced_inert (by decide)).2
    cases seed? with
    | none => exact (reads_balanced_inert Inert.empty).2
    | some seed => exact (reads_balanced_ofText (h seed rfl)).2

theorem tracks_balanced {d : Dialect} (hd : d ∈ [Dialect.generic, .mysql, .sqlite]) :
    Tracks d .closed .draft fun s vs d => d.Reads s vs ∧ d.Balanced where
  text := reads_balanced_inert
  operator := reads_balanced_ofText
  random h := ⟨Draft.reads_ofText _, balanced_random hd h⟩
  value v := ⟨Draft.reads_value v, rfl, rfl⟩
  fragment h hcount :=
    have hreads := Draft.reads_ofFragment hcount
    ⟨hreads, Draft.balanced_of_reads hreads h hcount⟩
  append ha hb _ := ⟨ha.1.append hb.1, ha.2.append hb.2⟩
  trim h := ⟨h.1.trim, h.2.trim⟩
  isEmpty_eq h := h.1.isEmpty_eq
  values_eq_nil h := h.1.values_eq_nil
  operator_eq := (by decide : QuoteClosed "=" ∧ MarkFree "=")

/-- The marks of a statement are its values, less those inside quotes, and the strays. They are as
many as the values whenever the copied texts are closed. -/
theorem count_compile {c : Compiler} (hd : c.dialect ∈ [Dialect.generic, .mysql, .sqlite])
    (hr : c.registry = .standard) {q : Query} {r : Statement}
    (h : (c.compile q).outcome = .ok r) :
    (count r.sql = r.bindings.size ↔
      (Assembly.draft.query c q).stray none = (Assembly.draft.query c q).hidden none) ∧
    (q.Meets .closed → count r.sql = r.bindings.size) := by
  obtain ⟨text, ctx, _, rfl, hread⟩ :=
    (tracks_reads c.dialect).compile (Dialect.mem_builtin hd) hr q.meets_any h
  have hlaw := Draft.count_reads hread
  rw [Array.length_toList] at hlaw
  rw [Dialect.finish_eq hd]
  have hexact : count text = ctx.bindings.size ↔
      (Assembly.draft.query c q).stray none = (Assembly.draft.query c q).hidden none := by
    omega
  refine ⟨hexact, fun hq => hexact.mpr ?_⟩
  obtain ⟨_, _, _, _, _, hbalanced⟩ :=
    (tracks_balanced hd).compile (Dialect.mem_builtin hd) hr hq h
  exact hbalanced.stray_eq

theorem count_compile_sample :
    ∃ r, (Compiler.compile { dialect := .sqlite } (.sample .null .null)).outcome = .ok r ∧
      Placeholder.count r.sql = r.bindings.size := by
  have hq : (Query.sample .null .null).Meets .closed :=
    Query.sample_meets (by decide : QuoteClosed "=" ∧ MarkFree "=")
      (by decide : QuoteClosed "f(?, '?')")
  refine ⟨_, rfl, ?_⟩
  exact (count_compile (c := { dialect := .sqlite }) (by simp) rfl rfl).2 hq

/-- An operator with a `?` of its own makes one mark too many. -/
theorem count_compile_mark_operator :
    ∃ r, (Compiler.compile {}
        ((Query.empty.fromTable "t").filter "a" "?" (.int 1))).outcome = .ok r ∧
      Placeholder.count r.sql = 2 ∧ r.bindings.size = 1 := by
  exact ⟨_, rfl, by decide, rfl⟩

end SqlSelect
