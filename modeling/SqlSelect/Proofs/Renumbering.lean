import SqlSelect.Proofs.Numbering
import SqlSelect.Proofs.Replacement

/-!
# Numbering once and again

Numbering writes `$` and a number for every `?` outside quotes. The new texts hold no quote and no
`?`, so the scanner is in the same quotes as before and finds no `?` in the result, whatever the
text: quotes may be left open, and a number may run on into digits that follow it. A second
numbering has nothing to do.

Where no number runs on, a numbered statement is inlined to the text with the same literals. The two
texts differ at the first `?` that has no value, since one keeps the `?` and the other its number.
-/

namespace SqlSelect

open Placeholder

/-! ## No mark is left -/

namespace Placeholder

/-- Text without quotes and marks. -/
def Quiet (cs : List Char) : Prop :=
  ∀ c ∈ cs, isQuote c = false ∧ c ≠ '?'

theorem quiet_of_isDigit {cs : List Char} (h : ∀ c ∈ cs, c.isDigit = true) : Quiet cs := by
  intro c hc
  have hordinary := isOrdinary_of_class (p := Char.isDigit) (by decide) (h c hc)
  simp only [isOrdinary, Bool.and_eq_true, Bool.not_eq_true', bne_iff_ne] at hordinary
  exact hordinary.1

theorem Quiet.cons_dollar {cs : List Char} (h : Quiet cs) : Quiet ('$' :: cs) :=
  List.forall_mem_cons.mpr ⟨by decide, h⟩

theorem quiet_number (n : Nat) : Quiet ("$" ++ Nat.repr n).toList := by
  rw [String.toList_append, Nat.toList_repr]
  exact Quiet.cons_dollar (quiet_of_isDigit fun c hc =>
    Nat.isDigit_of_mem_toDigits (by decide) (by decide) hc)

/-- A character completes a mark only if it is a `?` and no quote is open. -/
theorem mark_notMem_step {m : Mode} {c : Char} (h : ¬(m.quote? = none ∧ c = '?')) :
    .mark ∉ (m.step c).2 := by
  have hcount := countP_mark_step m c
  rw [if_neg h, List.countP_eq_zero] at hcount
  exact fun hmem => hcount _ hmem rfl

/-- Quiet text completes no mark and opens no quote. -/
theorem Quiet.scanFrom {cs : List Char} (h : Quiet cs) {m : Mode} (hm : m.quote? = none) :
    .mark ∉ m.completed cs ∧ (m.after cs).quote? = none := by
  induction cs generalizing m with
  | nil => exact ⟨List.not_mem_nil, hm⟩
  | cons c cs ih =>
    obtain ⟨⟨hquote, hmark⟩, hcs⟩ := List.forall_mem_cons.mp h
    have hnext : (m.step c).1.quote? = none := by
      rw [quote_step, hm, nextQuote, hquote]
      rfl
    obtain ⟨hcompleted, hafter⟩ := ih hcs hnext
    refine ⟨?_, hafter⟩
    rw [Mode.completed, List.mem_append, not_or]
    exact ⟨mark_notMem_step fun hc => hmark hc.2, hcompleted⟩

/-- No mark is left where each is replaced by quiet text and other placeholders are kept. -/
theorem Reading.mark_notMem {f : Placeholder → Option String}
    (hf : ∀ n, ∃ s, f (.positional n) = some s ∧ Quiet s.toList)
    (hkeep : ∀ n, f (.numbered n) = none) {quote? quote?' : Option Char} {ts : List Token}
    (h : Reading quote? ts quote?') {m : Mode} (hm : m.quote? = quote?) (seen : Nat) :
    .mark ∉ scanFrom m (replaceFrom f seen ts) := by
  induction h generalizing m seen with
  | nil quote? => cases m <;> simp [replaceFrom, scanFrom, Mode.finish]
  | char hc _ ih =>
    rw [replaceFrom, scanFrom, List.mem_append, not_or]
    refine ⟨mark_notMem_step fun hmark => ?_, ih ?_ seen⟩
    · exact (hc (hm.symm.trans hmark.1)).1 hmark.2
    · rw [quote_step, hm]
  | mark _ ih =>
    obtain ⟨s, hs, hquiet⟩ := hf (seen + 1)
    obtain ⟨hcompleted, hafter⟩ := hquiet.scanFrom hm
    rw [replaceFrom, hs, Option.map_some, Option.getD_some, scanFrom_append, List.mem_append,
      not_or]
    exact ⟨hcompleted, ih hafter (seen + 1)⟩
  | @dollar _ digits _ hdigits _ ih =>
    have hnone : (number? digits).bind (fun n => f (.numbered n)) = none := by
      cases number? digits with
      | none => rfl
      | some n => exact hkeep n
    obtain ⟨hcompleted, hafter⟩ := (quiet_of_isDigit hdigits).cons_dollar.scanFrom hm
    rw [replaceFrom, hnone, Option.map_none, Option.getD_none, scanFrom_append, List.mem_append,
      not_or]
    exact ⟨hcompleted, ih hafter seen⟩

theorem markFree_number (sql : String) : MarkFree (number sql) := by
  rw [MarkFree, scan, number, replace, String.toList_ofList]
  exact (reading_scan sql).mark_notMem (fun n => ⟨_, rfl, quiet_number n⟩) (fun _ => rfl) rfl 0

/-- A text without marks is numbered already. -/
theorem number_of_markFree {sql : String} (h : MarkFree sql) : number sql = sql := by
  refine replace_eq_self fun p hp => ?_
  cases p with
  | positional n => exact absurd (mark_mem_of_positional hp) h
  | numbered n => rfl

/-! ## Marks that have no value -/

/-- The marks of a text without numbers are counted from one. -/
theorem placeholdersFrom_of_dollarFree {ts : List Token} (h : ∀ t ∈ ts, t.isDollar = false)
    (seen : Nat) :
    placeholdersFrom seen ts =
      (List.range' (seen + 1) (ts.countP (· == .mark))).map .positional := by
  induction ts generalizing seen with
  | nil => rfl
  | cons t ts ih =>
    rw [List.forall_mem_cons] at h
    cases t with
    | char c =>
      rw [placeholdersFrom, ih h.2, List.countP_cons_of_neg (by simp)]
    | mark =>
      rw [placeholdersFrom, ih h.2, List.countP_cons_of_pos (by simp), List.range'_succ]
      rfl
    | dollar digits => cases h.1

/-- Replacing what has no value by a number instead of keeping its `?` makes a difference. -/
theorem replaceFrom_eq_iff {f g : Placeholder → Option String}
    (hg : ∀ n, g (.positional n) = some ((f (.positional n)).getD ("$" ++ Nat.repr n)))
    {ts : List Token} (h : ∀ t ∈ ts, t.isDollar = false) (seen : Nat) :
    replaceFrom g seen ts = replaceFrom f seen ts ↔
      ∀ p ∈ placeholdersFrom seen ts, (f p).isSome = true := by
  induction ts generalizing seen with
  | nil => simp [replaceFrom, placeholdersFrom]
  | cons t ts ih =>
    rw [List.forall_mem_cons] at h
    cases t with
    | char c =>
      rw [replaceFrom, replaceFrom, placeholdersFrom, List.cons_inj_right]
      exact ih h.2 seen
    | mark =>
      rw [replaceFrom, replaceFrom, placeholdersFrom, List.forall_mem_cons, hg, ← ih h.2]
      cases hf : f (.positional (seen + 1)) with
      | some s => simp
      | none => simp
    | dollar digits => cases h.1

end Placeholder

/-! ## Inlining a numbered text -/

namespace Draft

/-- The numbers of a draft are replaced as its marks are, but those without a value are kept. -/
theorem replaceFrom_numberedTokens_eq {f g : Placeholder → Option String}
    (hg : ∀ n, g (.positional n) = some ((f (.numbered n)).getD ("$" ++ Nat.repr n))) (d : Draft)
    (seen marks : Nat) (h : seen + d.values.length < UInt64.size) :
    replaceFrom f marks (numberedTokens seen d) = replaceFrom g seen (d.map Piece.token) := by
  induction d generalizing seen with
  | nil => rfl
  | cons p d ih =>
    cases p with
    | char c => exact congrArg (c :: ·) (ih seen h)
    | value v =>
      have hlength : (values (.value v :: d)).length = (values d).length + 1 := rfl
      rw [hlength] at h
      rw [numberedTokens, replaceFrom, number_toDigits (by omega), ih (seen + 1) (by omega),
        List.map_cons, Piece.token, replaceFrom, hg, Option.bind_some]
      cases f (.numbered (seen + 1)) with
      | some s => rfl
      | none =>
        rw [Option.map_some, Option.getD_none, Option.getD_some, String.toList_append,
          Nat.toList_repr]
        rfl

/-- A text with no `$` outside quotes is the text of a draft, with any values for its marks. -/
theorem exists_of_dollarFree {sql : String} (h : DollarFree sql) :
    ∃ d : Draft, d.sql = sql.toList ∧ d.map Piece.token = scan sql ∧
      d.values.length = count sql := by
  have hcount : count sql = (List.replicate (count sql) Value.null).length :=
    List.length_replicate.symm
  refine ⟨.ofFragment ⟨sql, List.replicate (count sql) .null⟩, sql_ofFragment _,
    map_token_ofFragment h hcount, ?_⟩
  rw [values_ofFragment hcount, List.length_replicate]

theorem length_values_le (d : Draft) : d.values.length ≤ d.sql.length := by
  rw [sql, List.length_map]
  exact List.length_filterMap_le _ _

end Draft

/-- The marks from one to `n` have values when there are that many. -/
theorem Placeholder.forall_value_iff (bindings : Array Value) (n : Nat) :
    (∀ p ∈ (List.range' 1 n).map Placeholder.positional,
      ((p.value? bindings).map Value.literal).isSome = true) ↔ n ≤ bindings.size := by
  have hvalue : ∀ k, (((Placeholder.positional (k + 1)).value? bindings).map
      Value.literal).isSome = true ↔ k < bindings.size := by
    intro k
    rw [Option.isSome_map, Placeholder.value?, isSome_getElem?]
  rw [List.forall_mem_map]
  constructor
  · intro h
    cases n with
    | zero => exact Nat.zero_le _
    | succ n => exact (hvalue n).mp (h (n + 1) (List.mem_range'_1.mpr (by omega)))
  · intro h k hk
    have hbounds := List.mem_range'_1.mp hk
    obtain ⟨k, rfl⟩ := Nat.exists_eq_add_of_le' hbounds.1
    exact (hvalue k).mpr (by omega)

/-- Inlining a numbered text puts the literals where the marks were. A mark without a value is shown
by its number. -/
theorem inline_number {sql : String} (hd : DollarFree sql) (hm : MarksApart sql)
    (hlength : sql.length < UInt64.size) (bindings : Array Value) :
    Statement.inline ⟨number sql, bindings⟩ =
      replace (fun p => some (((p.value? bindings).map Value.literal).getD
        ("$" ++ Nat.repr p.index))) sql := by
  obtain ⟨d, hsql, htokens, hvalues⟩ := Draft.exists_of_dollarFree hd
  have hspaced : d.Spaced := by
    rw [Draft.Spaced, htokens]
    exact hm
  have hcompleted : Mode.completed .outside d.sql = d.map Piece.token := by
    rw [htokens, hsql, scan_eq_completed hd]
  have hlimit : 0 + d.values.length < UInt64.size := by
    have hle := d.length_values_le
    rw [hsql, String.length_toList] at hle
    omega
  rw [Statement.inline, replace, Draft.scan_number hspaced hcompleted htokens.symm, replace,
    ← htokens, Draft.replaceFrom_numberedTokens_eq _ d 0 0 hlimit]
  intro n
  cases n <;> rfl

/-- Numbering leaves no `?` outside quotes, and numbering again changes nothing. If the text has no
`$` outside quotes and no `?` before a digit, inlining the numbered text gives what inlining the
text itself gives, exactly if there is a value for every `?`. -/
theorem numbering_stable (sql : String) (hlength : sql.length < UInt64.size) :
    (∀ bindings bindings', MarkFree (Dialect.postgres.finish sql bindings) ∧
      Dialect.postgres.finish (Dialect.postgres.finish sql bindings) bindings' =
        Dialect.postgres.finish sql bindings) ∧
    (DollarFree sql → MarksApart sql → ∀ bindings : Array Value,
      (Statement.inline ⟨Dialect.postgres.finish sql bindings, bindings⟩ =
        Statement.inline ⟨sql, bindings⟩ ↔ count sql ≤ bindings.size)) := by
  have hfinish : ∀ sql bindings, Dialect.postgres.finish sql bindings = number sql :=
    fun _ _ => rfl
  refine ⟨fun bindings bindings' => ?_, fun hd hm bindings => ?_⟩
  · rw [hfinish, hfinish]
    exact ⟨markFree_number sql, number_of_markFree (markFree_number sql)⟩
  · rw [hfinish, inline_number hd hm hlength, Statement.inline, replace, replace,
      String.ofList_inj, replaceFrom_eq_iff (fun n => rfl) hd, placeholdersFrom_of_dollarFree hd]
    exact Placeholder.forall_value_iff bindings (count sql)

/-- A `?` next to a quote, a `?` in an open quote, and one value more than there are marks. -/
theorem numbering_stable_sample :
    let sql := "a=?'?' AND b=? \x22?"
    let bindings : Array Value := #[.text "$1?", .bool true, .null]
    sql.length < UInt64.size ∧ DollarFree sql ∧ MarksApart sql ∧
      Dialect.postgres.finish sql bindings = "a=$1'?' AND b=$2 \x22?" ∧
      MarkFree (Dialect.postgres.finish sql bindings) ∧
      Dialect.postgres.finish (Dialect.postgres.finish sql bindings) #[] =
        Dialect.postgres.finish sql bindings ∧
      Statement.inline ⟨Dialect.postgres.finish sql bindings, bindings⟩ =
        Statement.inline ⟨sql, bindings⟩ := by
  intro sql bindings
  have hlength : sql.length < UInt64.size := by decide
  have hd : DollarFree sql := by decide
  have hm : MarksApart sql := by decide
  obtain ⟨hstable, hinline⟩ := numbering_stable sql hlength
  obtain ⟨hfree, hagain⟩ := hstable bindings #[]
  exact ⟨hlength, hd, hm, by decide, hfree, hagain, (hinline hd hm bindings).mpr (by decide)⟩

/-- With no value for it, a `?` is kept and so is its number, and the two texts differ. -/
theorem inline_number_unfilled :
    let sql := "?"
    sql.length < UInt64.size ∧ DollarFree sql ∧ MarksApart sql ∧
      Statement.inline ⟨Dialect.postgres.finish sql #[], #[]⟩ = "$1" ∧
      Statement.inline ⟨sql, #[]⟩ = "?" ∧
      Statement.inline ⟨Dialect.postgres.finish sql #[], #[]⟩ ≠
        Statement.inline ⟨sql, #[]⟩ := by
  decide

end SqlSelect
