import SqlSelect.Proofs.Draft
import SqlSelect.Proofs.Refinement

/-!
# Placeholders and values correspond

When the texts that a query copies are clean, the `?` of its statement and the bound values match
one to one and in order: putting the literal of each value in the place of its `?` gives the text
that writes every literal in place from the start.
-/

namespace SqlSelect

open Placeholder

/-- Fragments close their quotes and have no `$` outside them; operators and seeds moreover have no
`?` outside them. -/
def Policy.clean : Policy where
  fragment f := QuoteClosed f.sql ∧ DollarFree f.sql
  operator s := QuoteClosed s ∧ DollarFree s ∧ MarkFree s
  seed s := QuoteClosed s ∧ DollarFree s ∧ MarkFree s

theorem Policy.clean_operator_eq : Policy.clean.operator "=" :=
  (by decide : QuoteClosed "=" ∧ DollarFree "=" ∧ MarkFree "=")

/-- A fragment with the literal of its k-th value in place of its k-th `?`. -/
def Fragment.literal (f : Fragment) : String :=
  replace (fun
    | .positional k => f.bindings[k - 1]?.map Value.literal
    | .numbered _ => none) f.sql

/-- Statements as texts, with literals for values. -/
def Assembly.literal : Assembly String where
  text s := s
  value := Value.literal
  fragment := Fragment.literal
  trim := Text.trim
  isEmpty := String.isEmpty

/-- The text of a query with every literal written in its place. -/
def Compiler.literalText (c : Compiler) (q : Query) : String :=
  Assembly.literal.query c q

/-! ## Replacing the placeholders of a draft -/

/-- Replacing the marks of a draft by the literals of its values writes the values in place. -/
theorem Draft.replaceFrom_tokens {f : Placeholder → Option String} (d : Draft) (seen : Nat)
    (h : ∀ k v, d.values[k]? = some v → f (.positional (seen + k + 1)) = some v.literal) :
    replaceFrom f seen (d.map Piece.token) = d.literal := by
  induction d generalizing seen with
  | nil => rfl
  | cons p d ih =>
    cases p with
    | char c => exact congrArg (c :: ·) (ih seen h)
    | value v =>
      have hv : f (.positional (seen + 1)) = some v.literal := h 0 v rfl
      have htail := ih (seen + 1) fun k u hk => by
        rw [Nat.add_right_comm seen 1 k]
        exact h (k + 1) u hk
      simp only [List.map_cons, Piece.token, replaceFrom, hv, htail]
      rfl

theorem Draft.literal_ofFragment {f : Fragment} (hd : DollarFree f.sql)
    (h : count f.sql = f.bindings.length) : f.literal.toList = (Draft.ofFragment f).literal := by
  rw [Fragment.literal, replace, String.toList_ofList, ← map_token_ofFragment hd h]
  refine Draft.replaceFrom_tokens _ 0 fun k v hk => ?_
  rw [values_ofFragment h] at hk
  simp [hk]

/-- The scanner finds the values of a legible draft, so a statement can be inlined. -/
theorem Draft.Legible.inline_eq {d : Draft} (h : d.Legible) {s : Statement}
    (hs : s.sql.toList = d.sql) (hv : s.bindings.toList = d.values) :
    s.inline.toList = d.literal := by
  rw [Statement.inline, replace, String.toList_ofList, h.scan_eq hs]
  refine Draft.replaceFrom_tokens d 0 fun k v hk => ?_
  rw [← hv, Array.getElem?_toList] at hk
  simp [Placeholder.value?, hk]

theorem Draft.Legible.count_eq {d : Draft} (h : d.Legible) {text : String}
    (ht : text.toList = d.sql) : count text = d.values.length := by
  rw [count, h.scan_eq ht]
  clear h ht
  induction d with
  | nil => rfl
  | cons p d ih => cases p <;> simp [Piece.token, Draft.values, Piece.value?] at ih ⊢ <;> exact ih

/-! ## The compiler and the literal text -/

/-- The text and the values of a legible draft, and the text that shows its literals. -/
def Inlines (s : String) (vs : List Value) (t : String) : Prop :=
  ∃ d : Draft, d.Reads s vs ∧ d.Legible ∧ t.toList = d.literal

theorem Inlines.text {s : String} (h : Inert s) : Inlines s [] s :=
  ⟨.ofText s, Draft.reads_ofText s, Draft.legible_ofText h, (Draft.literal_ofText s).symm⟩

theorem Dialect.inert_random {d : Dialect} (hd : d ∈ [Dialect.generic, .mysql, .sqlite])
    {seed? : Option String} (h : ∀ seed ∈ seed?, Policy.clean.seed seed) :
    Inert (d.random seed?) := by
  rcases Dialect.random_cases hd seed? with hrandom | hrandom <;> rw [hrandom]
  · decide
  · refine Inert.append (Inert.append (by decide) ?_) (by decide)
    cases seed? with
    | none => exact Inert.empty
    | some seed => exact (inert_iff seed).mpr (h seed rfl)

/-- Binding values and writing their literals in place are the two readings of one draft. -/
theorem tracks_inlines {d : Dialect} (hd : d ∈ [Dialect.generic, .mysql, .sqlite]) :
    Tracks d .clean .literal Inlines where
  text := Inlines.text
  operator h := Inlines.text ((inert_iff _).mpr h)
  random h := Inlines.text (Dialect.inert_random hd h)
  value v :=
    ⟨[.value v], Draft.reads_value v, Draft.legible_value v, (List.flatMap_singleton _ _).symm⟩
  fragment h hcount :=
    ⟨.ofFragment _, Draft.reads_ofFragment hcount, Draft.legible_ofFragment h.1 h.2 hcount,
      Draft.literal_ofFragment h.2 hcount⟩
  append := by
    intro s t vs ws a b hs ht _
    obtain ⟨d, hd, hdl, ha⟩ := hs
    obtain ⟨e, he, hel, hb⟩ := ht
    refine ⟨d ++ e, hd.append he, hdl.append hel, ?_⟩
    rw [String.toList_append, Draft.literal_append, ha, hb]
  trim := by
    intro s vs a hs
    obtain ⟨d, hd, hdl, ha⟩ := hs
    refine ⟨d.trim, hd.trim, hdl.trim, ?_⟩
    rw [Draft.literal_trim, ← ha]
    exact String.toList_ofList
  isEmpty_eq := by
    intro s vs a hs
    obtain ⟨d, hd, _, ha⟩ := hs
    rw [Bool.eq_iff_iff, String.isEmpty_iff, hd.eq_empty_iff, ← Draft.literal_eq_nil, ← ha,
      String.toList_eq_nil_iff]
    exact String.isEmpty_iff
  values_eq_nil := by
    intro vs a hs
    obtain ⟨d, hd, _⟩ := hs
    exact hd.values_eq_nil
  operator_eq := Policy.clean_operator_eq

/-- The `?` of a statement are as many as its values, outside quotes, and inlining the statement
gives the text with the literals in place. -/
theorem inline_compile {c : Compiler} (hd : c.dialect ∈ [Dialect.generic, .mysql, .sqlite])
    (hr : c.registry = .standard) {q : Query} (hq : q.Meets .clean) {r : Statement}
    (h : (c.compile q).outcome = .ok r) :
    QuoteClosed r.sql ∧ count r.sql = r.bindings.size ∧ r.inline = c.literalText q := by
  obtain ⟨text, ctx, _, rfl, d, hread, hlegible, hliteral⟩ :=
    (tracks_inlines hd).compile (Dialect.mem_builtin hd) hr hq h
  rw [Dialect.finish_eq hd]
  refine ⟨?_, ?_, ?_⟩
  · rw [QuoteClosed, hread.sql_eq, hlegible.after_eq]
    rfl
  · rw [hlegible.count_eq hread.sql_eq, ← hread.values_eq]
    exact Array.length_toList
  · rw [← String.toList_inj, hlegible.inline_eq hread.sql_eq hread.values_eq]
    exact hliteral.symm

theorem inline_compile_sample :
    ∃ r, (Compiler.compile { dialect := .mysql }
        (.sample (.text "?") (.bool true))).outcome = .ok r ∧
      QuoteClosed r.sql ∧ Placeholder.count r.sql = r.bindings.size ∧ r.inline =
      "SELECT * FROM `a?` WHERE `id` IN (SELECT `x` FROM `u` WHERE `k` = '?') AND f(TRUE, '?')"
    := by
  have hq : (Query.sample (.text "?") (.bool true)).Meets .clean :=
    Query.sample_meets Policy.clean_operator_eq
      (by decide : QuoteClosed "f(?, '?')" ∧ DollarFree "f(?, '?')")
  refine ⟨_, rfl, ?_⟩
  obtain ⟨hclosed, hcount, hinline⟩ :=
    inline_compile (c := { dialect := .mysql }) (by simp) rfl hq rfl
  exact ⟨hclosed, hcount, hinline.trans (by decide +kernel)⟩

end SqlSelect
