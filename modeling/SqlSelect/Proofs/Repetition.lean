import SqlSelect.Proofs.Balance
import SqlSelect.Proofs.DeepJoins
import SqlSelect.Proofs.Noninterference

/-!
# Compiling again, and after expansion

An expanded store has nothing left to expand, and a store at which expansion has failed makes it
fail at once in the same way. So a second compilation repeats the first, whether it succeeds or not.

For the same reason it does not matter when the deep joins of nested queries are expanded: on the
spot, as the compiler does, or in the whole tree beforehand. The two ways differ in the events that
are recorded, so their actions are not equal. That they write the same text or fail with the same
error follows by running them side by side, and that they bind the same values from the draft that
both are readings of.
-/

namespace SqlSelect

variable {Q : Type}

theorem Compiler.expand_expand (c : Compiler) {s : Store Q} (h : s.Ordered) :
    c.expand (c.expand s).store = ⟨(c.expand s).store, [], (c.expand s).failure?⟩ := by
  unfold Compiler.expand
  split
  · exact Expander.expand_expand h
  · rfl

/-- A query that has been compiled compiles again to the same statement or error, and compiling it
again does not change it. -/
theorem compile_repeatable (c : Compiler) {q : Query} (h : q.clauses.Reachable) :
    (c.compile (c.compile q).query).outcome = (c.compile q).outcome ∧
      (c.compile (c.compile q).query).query = (c.compile q).query := by
  have hexpand := c.expand_expand h.ordered
  constructor
  · rw [Compiler.outcome_compile (c.compile q).query, Compiler.query_compile, hexpand,
      Compiler.outcome_compile q]
  · rw [Compiler.query_compile (c.compile q).query, Compiler.query_compile, hexpand]

/-- The first of two deep joins has no segments and is dropped before the second one fails. -/
theorem compile_repeatable_sample :
    let q := (Query.empty.deepJoin " . ").deepJoin "author"
    let first := Compiler.compile {} q
    let second := Compiler.compile {} first.query
    q.clauses.Reachable ∧ q.clauses.size = 2 ∧ first.query.clauses.size = 1 ∧
      first.outcome = .error (.missingRoot "author") ∧ second.outcome = first.outcome ∧
      second.query = first.query := by
  have h : ((Query.empty.deepJoin " . ").deepJoin "author").clauses.Reachable :=
    .add _ _ (.add _ _ .empty)
  exact ⟨h, rfl, rfl, rfl, compile_repeatable {} h⟩

/-! ## Expanding a whole tree -/

/-- The tree with the deep joins of every query in it expanded. -/
def Query.expandTree (x : Expander) : Query → Query :=
  Query.fold fun s isDistinct => Query.expand x ⟨s, isDistinct⟩

theorem Query.expandTree_eq (x : Expander) (q : Query) :
    q.expandTree x = ⟨(x.expand (q.clauses.map (Query.expandTree x))).store, q.isDistinct⟩ :=
  Query.fold_eq _ q

theorem Query.isDistinct_expandTree (x : Expander) (q : Query) :
    (q.expandTree x).isDistinct = q.isDistinct := by
  rw [Query.expandTree_eq]

/-- Expansion succeeds for every query of the tree. -/
def Query.Expands (x : Expander) : Query → Prop :=
  Query.Throughout fun s => (x.expand s).failure? = none

section Tree

variable {c : Compiler} (hc : c.dialect.expandsDeepJoins = true)
include hc

theorem Compiler.expand_eq (s : Store Q) : c.expand s = c.expander.expand s := by
  rw [Compiler.expand, if_pos hc]

/-- Expanding a tree replaces the nested queries of the expanded store. -/
theorem clauses_expandTree (q : Query) :
    (q.expandTree c.expander).clauses =
      (c.expand q.clauses).store.map (Query.expandTree c.expander) := by
  rw [Query.expandTree_eq, ← Compiler.expand_eq hc, Compiler.expand_map]
  rfl

/-- Nothing is left to expand at the root of an expanded tree. -/
theorem expand_expandTree {q : Query} (hq : q.clauses.Reachable)
    (hx : (c.expander.expand q.clauses).failure? = none) :
    c.expand (q.expandTree c.expander).clauses =
      ⟨(q.expandTree c.expander).clauses, [], none⟩ := by
  have hfailure : (c.expand (q.clauses.map (Query.expandTree c.expander))).failure? = none := by
    rw [Compiler.expand_map, Compiler.expand_eq hc]
    exact hx
  rw [Query.expandTree_eq, ← Compiler.expand_eq hc,
    c.expand_expand (hq.ordered.map _), hfailure]

/-- An expanded tree is assembled to the same statement. -/
theorem query_expandTree {A : Type} [Append A] (w : Assembly A) (q : Query) (hq : q.Reachable)
    (hx : q.Expands c.expander) : w.query c (q.expandTree c.expander) = w.query c q := by
  induction q using Query.induction with
  | step q ih =>
    obtain ⟨hstore, hqs⟩ := (Query.throughout_iff _ q).mp hq
    obtain ⟨hfailure, hxs⟩ := (Query.throughout_iff _ q).mp hx
    have hnested := Store.map_congr (((ih.mp hqs).mp hxs).expand trivial c)
    have hselect : ∀ q, w.query c q =
        w.select c.dialect ((c.expand q.clauses).store.map (w.query c)) q.isDistinct := by
      intro q
      rw [Assembly.query, Query.fold_eq, Compiler.expand_map]
      rfl
    rw [hselect, hselect q, expand_expandTree hc hstore hfailure, clauses_expandTree hc,
      Store.map_map, Query.isDistinct_expandTree]
    exact congrArg (w.select c.dialect · q.isDistinct) hnested

variable (hr : c.registry = .standard)
include hr

omit hc in
/-- Nested queries may be replaced by others that agree with them. -/
theorem agrees_nested {f g : Query → SubSelect} {s : Store Query}
    (hs : s.Meets .any fun q => Agrees Eq (f q).write (g q).write) (isDistinct : Bool) :
    Agrees Eq (c.writeSelect (s.map f) isDistinct) (c.writeSelect (s.map g) isDistinct) := by
  have hleft := agrees_select hr hs isDistinct
  have hself : s.Meets .any fun q => Agrees Eq (g q).write (g q).write :=
    hs.mono fun _ h => h.symm.trans h
  exact hleft.trans (agrees_select hr hself isDistinct).symm

/-- The query that is compiled and its expanded tree, once the root of each is expanded. -/
theorem agrees_expandTree_root {q : Query} (hq : q.clauses.Reachable)
    (hx : (c.expander.expand q.clauses).failure? = none) (hnested : q.clauses.Meets .any fun q =>
      Agrees Eq (c.subselect q) (c.subselect (q.expandTree c.expander))) :
    Agrees Eq (c.select ⟨(c.expand q.clauses).store, q.isDistinct⟩)
      (c.select ⟨(c.expand (q.expandTree c.expander).clauses).store,
        (q.expandTree c.expander).isDistinct⟩) := by
  have hagrees := agrees_nested hr (hnested.expand trivial c) q.isDistinct
  rw [expand_expandTree hc hq hx, Compiler.select, Compiler.select, clauses_expandTree hc,
    Store.map_map, Query.isDistinct_expandTree]
  exact hagrees

theorem agrees_expandTree (q : Query) (hq : q.Reachable) (hx : q.Expands c.expander) :
    Agrees Eq (c.subselect q) (c.subselect (q.expandTree c.expander)) := by
  induction q using Query.induction with
  | step q ih =>
    obtain ⟨hstore, hqs⟩ := (Query.throughout_iff _ q).mp hq
    obtain ⟨hfailure, hxs⟩ := (Query.throughout_iff _ q).mp hx
    have hroot := agrees_expandTree_root hc hr hstore hfailure ((ih.mp hqs).mp hxs)
    have hnone : (c.expand q.clauses).failure? = none := by
      rw [Compiler.expand_eq hc, hfailure]
    rw [Compiler.subselect_eq, Compiler.subselect_eq, hnone]
    have hnone' := congrArg Expansion.failure? (expand_expandTree hc hstore hfailure)
    rw [hnone']
    exact Agrees.bind (Agrees.record _ _) fun _ => hroot

end Tree

theorem Dialect.expandsDeepJoins_of_builtin {d : Dialect} (hd : d ∈ Dialect.builtin) :
    d.expandsDeepJoins = true := by
  simp only [Dialect.builtin, List.mem_cons, List.not_mem_nil, or_false] at hd
  rcases hd with rfl | rfl | rfl | rfl <;> rfl

/-- A statement is known by its shape and by the draft of its query, which has its values. -/
theorem outcome_eq_of_shape_eq {c : Compiler} (hd : c.dialect ∈ Dialect.builtin)
    (hr : c.registry = .standard) {q q' : Query}
    (hshape : (c.compile q).outcome.map Statement.shape =
      (c.compile q').outcome.map Statement.shape)
    (hdraft : Assembly.draft.query c q = Assembly.draft.query c q') :
    (c.compile q).outcome = (c.compile q').outcome := by
  have hvalues : ∀ {q r}, (c.compile q).outcome = .ok r →
      r.bindings.toList = (Assembly.draft.query c q).values := by
    intro q r hok
    obtain ⟨text, ctx, _, rfl, hreads⟩ := (tracks_reads c.dialect).compile hd hr q.meets_any hok
    exact hreads.values_eq
  obtain ⟨e, hq, hq'⟩ | ⟨r, r', hq, hq', hr⟩ := map_eq_map_cases hshape
  · rw [hq, hq']
  · obtain ⟨sql, bindings⟩ := r
    obtain ⟨sql', bindings'⟩ := r'
    have hsql : sql = sql' := congrArg Prod.fst hr
    have hbindings : bindings = bindings' := by
      apply Array.ext'
      rw [hvalues hq, hvalues hq', hdraft]
    rw [hq, hq', hsql, hbindings]

/-- The joins of a path nest no query. -/
theorem Expander.meets_joins (x : Expander) (root? : Option String) (d : DeepJoin) :
    ∀ j ∈ x.joins (Q := Q) root? d, j.Meets .any fun _ => False := by
  intro j hj
  obtain ⟨link, _, rfl⟩ := List.mem_map.mp hj
  exact Link.meets_toJoin trivial d.kind link

/-- Expanding the deep joins of all nested queries beforehand changes neither the statement nor the
error. Compiling the query as it is leaves its clauses, with the queries nested in them, as they
were, but for its own deep joins, in whose place it appends joins that nest no query. -/
theorem compile_expandTree {c : Compiler} (hd : c.dialect ∈ Dialect.builtin)
    (hr : c.registry = .standard) {q : Query} (hq : q.Reachable) (hx : q.Expands c.expander) :
    (c.compile q).outcome = (c.compile (q.expandTree c.expander)).outcome ∧
    ∃ joins : List (Join Query), (∀ j ∈ joins, j.Meets .any fun _ => False) ∧
      (c.compile q).query.clauses.entries =
        q.clauses.entries.filter (·.component != .deepJoin) ++
          Store.joinEntries q.clauses.nextId joins := by
  have hc := Dialect.expandsDeepJoins_of_builtin hd
  obtain ⟨hstore, hqs⟩ := (Query.throughout_iff _ q).mp hq
  obtain ⟨hfailure, hxs⟩ := (Query.throughout_iff _ q).mp hx
  constructor
  · refine outcome_eq_of_shape_eq hd hr ?_ (query_expandTree hc _ q hq hx).symm
    refine shape_compile_of_agrees hd ?_ (agrees_expandTree_root hc hr hstore hfailure ?_)
    · rw [expand_expandTree hc hstore hfailure, Compiler.expand_eq hc, hfailure]
    · exact ((Store.meets_any (agrees_expandTree hc hr) q.clauses).mp hqs).mp hxs
  · have hp := Expander.progress_of_failure_eq_none hstore.ordered hfailure
    refine ⟨(q.clauses.get Clause.deepJoin? .deepJoin).flatMap
      (c.expander.joins q.clauses.rootName?), ?_, ?_⟩
    · intro j hj
      obtain ⟨d, _, hj⟩ := List.mem_flatMap.mp hj
      exact c.expander.meets_joins _ d j hj
    · rw [Compiler.query_compile, Compiler.expand_eq hc, hp.store_eq]
      rfl

/-- A deep join on a query that selects from one with deep joins of its own. -/
theorem compile_expandTree_sample :
    let q := (Query.empty.fromQuery .deepSample "p").deepJoin "author"
    q.Reachable ∧ q.Expands {} ∧
      (Compiler.compile { dialect := .postgres } q).outcome.isOk = true ∧
      (Compiler.compile { dialect := .postgres } q).outcome =
        (Compiler.compile { dialect := .postgres } (q.expandTree {})).outcome := by
  intro q
  have hplain : ∀ N : Query → Prop, Query.deepSample.clauses.Meets .any N := by
    intro N
    refine .add (.add (.add (.replace .empty ?_ _) ?_ _) ?_ _) ?_ _ <;> trivial
  have hdeep : Query.deepSample.Reachable :=
    .push (.push (.push (.set .empty trivial) trivial) trivial) trivial
  have hdeep' : Query.deepSample.Expands {} := (Query.throughout_iff _ _).mpr ⟨rfl, hplain _⟩
  have hnested : ∀ N : Query → Prop, N .deepSample → q.clauses.Meets .any N := by
    intro N hN
    refine .add (.replace .empty ?_ _) ?_ _
    · exact hN
    · trivial
  have hq : q.Reachable := .push (.set .empty hdeep) trivial
  have hx : q.Expands {} := (Query.throughout_iff _ _).mpr ⟨rfl, hnested _ hdeep'⟩
  refine ⟨hq, hx, by decide +kernel, ?_⟩
  exact (compile_expandTree (c := { dialect := .postgres }) (by simp [Dialect.builtin]) rfl hq hx).1

end SqlSelect
