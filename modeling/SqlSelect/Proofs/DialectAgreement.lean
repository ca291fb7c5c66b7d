import SqlSelect.Proofs.Posting

/-!
# Dialects agree on values and errors

The ledger of a query depends on the dialect only through the question whether set operations are
written, and where there are none the answer makes no difference. So dialects that write them bind
the same values and fail with the same error, and the generic dialect, which leaves them out, joins
the others on queries without set operations.
-/

namespace SqlSelect

theorem Store.ledger_of_no_unions {s : Store Ledger} (h : s.clauses .union = []) (unions : Bool) :
    s.ledger unions = s.ledger true := by
  unfold Store.ledger
  apply List.flatMap_congr
  intro component _
  cases component with
  | union =>
    rw [Store.componentLedger_eq_nil h, ite_self, ite_self]
  | _ => rfl

/-- No clause is stored as a set operation at any level of the tree. -/
def Query.UnionFree : Query → Prop :=
  Query.Throughout fun s => s.clauses .union = []

theorem Query.UnionFree.ledger_eq (x : Expander) (unions : Bool) {q : Query} (h : q.UnionFree) :
    q.ledger x unions = q.ledger x true := by
  induction q using Query.induction with
  | step q ih =>
    obtain ⟨hunion, hnested⟩ := (Query.throughout_iff _ q).mp h
    -- expansion appends joins and nothing else
    have hexpanded : (x.expand q.clauses).store.clauses .union = [] := by
      rw [Store.clauses_eq_nil_iff] at hunion ⊢
      exact hunion.expand (fun _ _ => by decide) x
    have hcongr := Store.map_congr (Expander.meets_expand trivial (ih.mp hnested) x)
    have hroot : ((x.expand q.clauses).store.map (Query.ledger x true)).clauses .union = [] := by
      rw [Store.clauses_map, hexpanded]
      rfl
    rw [Query.ledger_eq, Query.ledger_eq, hcongr, Store.ledger_of_no_unions hroot unions]

/-- The dialects that write set operations bind the same values or fail with the same error, and so
does the generic dialect on a query without set operations. -/
theorem bindings_eq_across_dialects (x : Expander) (q : Query) :
    let bindings (d : Dialect) := Compiler.bindings ⟨d, .standard, x⟩ q
    bindings .postgres = bindings .mysql ∧ bindings .mysql = bindings .sqlite ∧
      (q.UnionFree → bindings .generic = bindings .postgres) := by
  have hsettle : ∀ d ∈ Dialect.builtin,
      Compiler.bindings ⟨d, .standard, x⟩ q = (q.ledger x d.writesUnions).settle := by
    intro d hd
    exact Compiler.bindings_eq_settle hd rfl q
  simp only [Dialect.builtin, List.forall_mem_cons] at hsettle
  obtain ⟨hgeneric, hpostgres, hmysql, hsqlite, -⟩ := hsettle
  refine ⟨hpostgres.trans hmysql.symm, hmysql.trans hsqlite.symm, ?_⟩
  intro hq
  exact hgeneric.trans ((congrArg Ledger.settle (hq.ledger_eq x false)).trans hpostgres.symm)

/-- A query in a condition, a copied fragment and a deep join, and no set operation. -/
theorem bindings_eq_across_dialects_sample :
    let q := (Query.sample (.int 7) (.text "x")).deepJoin "author"
    let bindings (d : Dialect) := Compiler.bindings ⟨d, .standard, {}⟩ q
    q.UnionFree ∧ (bindings .generic).toOption.map List.length = some 2 ∧
      bindings .generic = bindings .postgres ∧ bindings .postgres = bindings .mysql ∧
      bindings .mysql = bindings .sqlite := by
  intro q bindings
  have hnested : (((Query.empty.select ["x"]).fromTable "u").filter "k" "=" (.int 7)).UnionFree :=
    .push (.set (.push (.empty rfl) (by trivial) rfl) (by trivial) rfl) (by trivial) rfl
  have hsample : (Query.sample (.int 7) (.text "x")).UnionFree :=
    .push (.push (.set (.empty rfl) (by trivial) rfl) hnested rfl) (by trivial) rfl
  have hq : q.UnionFree := .push hsample (by trivial) rfl
  obtain ⟨hpostgres, hmysql, hgeneric⟩ := bindings_eq_across_dialects {} q
  exact ⟨hq, by decide +kernel, hgeneric hq, hpostgres, hmysql⟩

end SqlSelect
