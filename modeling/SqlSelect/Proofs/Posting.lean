import SqlSelect.Proofs.Ledger
import SqlSelect.Proofs.Repetition

/-!
# Writers post their ledgers

Every writer, given nested queries that post their ledgers, posts its own, in every dialect. So a
compilation returns the values of the ledger of its query, or the first fault in it.
-/

namespace SqlSelect

variable {Q α β γ : Type}

/-! ## Conditions -/

theorem posts_fragment (f : Fragment) : Posts (CompileM.fragment f) f.ledger := by
  rw [CompileM.fragment, Fragment.ledger]
  split
  · exact (Posts.bindValues f.bindings).map fun _ => f.sql
  · exact Posts.throw _

section Conditions

variable {c : Compiler} (hr : c.registry = .standard) {f : Q → SubSelect} {g : Q → Ledger}

-- only the first theorem of the block uses the registry
set_option linter.unusedSectionVars false

include hr

mutual

theorem Predicate.Meets.posts (byOr negated : Bool) : ∀ {p : Predicate Q},
    (p.Meets .any fun q => Posts (f q).write (g q)) →
    Posts (c.writeCondition ⟨byOr, negated, p.map f⟩) (p.map g).ledger
  | .compare column operator value, _ => by
    rw [Compiler.writeCondition_map hr rfl]
    exact (Posts.bindValue value).map _
  | .text column kind value true, _ | .text column kind value false, _ => by
    rw [Compiler.writeCondition_map hr rfl]
    exact (Posts.bindValue _).map _
  | .compareColumns first operator second, _ => by
    rw [Compiler.writeCondition_map hr rfl]
    exact Posts.pure _
  | .isNull column, _ => by
    rw [Compiler.writeCondition_map hr rfl]
    exact Posts.pure _
  | .group items, h => by
    rw [Compiler.writeCondition_map hr rfl]
    exact (Condition.MeetsAll.posts h).map _
  | .raw fragment, _ => by
    rw [Compiler.writeCondition_map hr rfl]
    exact (posts_fragment fragment).map _
  | .between column lower upper, _ => by
    rw [Compiler.writeCondition_map hr rfl]
    exact (Posts.bindValue lower).bind fun low => (Posts.bindValue upper).map _
  | .oneOf column values, _ => by
    have hvalues : Posts (values.mapM CompileM.bindValue) (values.map .ok) := by
      rw [List.map_eq_flatMap]
      exact Posts.mapM fun v _ => Posts.bindValue v
    rw [Compiler.writeCondition_map hr rfl]
    cases values with
    | nil => exact Posts.pure _
    | cons v values => exact hvalues.map _
  | .inQuery column q, h | .existsQuery q, h => by
    rw [Predicate.Meets] at h
    rw [Compiler.writeCondition_map hr rfl]
    exact h.map _
  | .custom tag column values, _ => by
    rw [Predicate.map, Compiler.writeCondition_custom hr]
    exact Posts.throw _

theorem Condition.MeetsAll.posts : ∀ {items : List (Condition Q)},
    (Condition.MeetsAll .any (fun q => Posts (f q).write (g q)) items) →
    Posts (c.writeTerms (Condition.mapList f items))
      (Condition.ledgerAll (Condition.mapList g items))
  | [], _ => Posts.pure []
  | ⟨byOr, negated, p⟩ :: items, h => by
    simp only [Condition.MeetsAll] at h
    rw [Condition.mapList, Condition.mapList, Compiler.writeTerms, Condition.ledgerAll]
    exact (Predicate.Meets.posts byOr negated h.1).bind fun sql =>
      (Condition.MeetsAll.posts h.2).map _

end

theorem posts_terms {items : List (Condition Q)}
    (h : ∀ item ∈ items, item.Meets .any fun q => Posts (f q).write (g q)) :
    Posts (c.writeTerms (items.map (Condition.map f)))
      (items.flatMap fun item => (item.map g).ledger) := by
  have hposts := Condition.MeetsAll.posts hr ((Condition.meetsAll_iff _ _ _).mpr h)
  rw [Condition.ledgerAll_eq_flatMap, Condition.mapList_eq_map, Condition.mapList_eq_map,
    List.flatMap_map] at hposts
  exact hposts

end Conditions

/-! ## Sources, columns and the like -/

section Items

variable {c : Compiler} {f : Q → SubSelect} {g : Q → Ledger}

theorem Source.Meets.posts {x : Source Q} (h : x.Meets .any fun q => Posts (f q).write (g q)) :
    Posts (c.writeSource (x.map f)) (x.map g).ledger := by
  cases x with
  | table name alias? => exact Posts.pure _
  | raw fragment => exact posts_fragment fragment
  | query q alias? => exact Posts.map h _

theorem Column.Meets.posts {x : Column Q} (h : x.Meets .any fun q => Posts (f q).write (g q)) :
    Posts (c.writeColumn (x.map f)) (x.map g).ledger := by
  cases x with
  | name name => exact Posts.pure _
  | raw fragment => exact posts_fragment fragment
  | query q label => exact Posts.map h _

theorem posts_columns {columns : List (Column Q)}
    (h : ∀ x ∈ columns, x.Meets .any fun q => Posts (f q).write (g q)) :
    Posts (c.writeColumns (columns.map (Column.map f)))
      (columns.flatMap fun x => (x.map g).ledger) :=
  (Posts.mapM_map fun x hx => (h x hx).posts).map _

theorem Combine.Meets.posts (parenthesize : Bool) {x : Combine Q}
    (h : x.Meets .any fun q => Posts (f q).write (g q)) :
    Posts (Compiler.writeCombine parenthesize (x.map f)) (x.map g).ledger := by
  cases x with
  | query operation all q => exact Posts.map h _
  | raw fragment => exact posts_fragment fragment

theorem posts_order (x : Order) : Posts (c.writeOrder x) x.ledger := by
  cases x with
  | column column direction => exact Posts.pure _
  | raw fragment => exact posts_fragment fragment
  | random seed? => exact Posts.pure _

theorem Join.Meets.posts (hr : c.registry = .standard) {x : Join Q}
    (h : x.Meets .any fun q => Posts (f q).write (g q)) :
    Posts (c.writeJoin (x.map f)) (x.map g).ledger := by
  have hon := posts_terms hr ((Condition.meetsAll_iff _ _ _).mp h.on)
  rw [← List.flatMap_map] at hon
  exact h.table.posts.bind fun table => (hon.map Term.join).map _

theorem posts_number (keyword : String) (n? : Option UInt32) :
    Posts (Compiler.writeNumber keyword n?) (numberLedger n?) := by
  cases n? with
  | none => exact Posts.pure _
  | some n => exact (Posts.bindValue (toValue n)).map _

end Items

/-! ## Reading components -/

namespace Store

variable {p? : Clause Q → Option α} {mk : α → Clause Q} {component : Component}

theorem strictPayload_of_kind_eq (hmk : component.Payload p? mk) {clause : Clause Q}
    (h : clause.kind = component) :
    ∃ a, clause = mk a ∧ strictPayload p? component clause = .ok a := by
  obtain ⟨a, hclause, ha⟩ := hmk.exists_eq h
  refine ⟨a, hclause, ?_⟩
  rw [strictPayload, ha]
  exact if_pos h

theorem strictPayload_of_kind_ne {clause : Clause Q} (h : clause.kind ≠ component) :
    strictPayload p? component clause =
      .error (.invalidClause component.name clause.kind.name) := by
  rw [strictPayload]
  cases p? clause with
  | none => rfl
  | some a => exact if_neg h

/-- The error of reading a component names the first misplaced clause. -/
theorem getStrict_eq_error (hmk : component.Payload p? mk) {s : Store Q} {clause : Clause Q}
    (h : s.misplaced? component = some clause) :
    s.getStrict p? component = .error (.invalidClause component.name clause.kind.name) := by
  rw [misplaced?] at h
  rw [getStrict]
  generalize s.clauses component = clauses at h
  induction clauses with
  | nil => cases h
  | cons first rest ih =>
    by_cases hkind : first.kind = component
    · obtain ⟨a, _, ha⟩ := strictPayload_of_kind_eq hmk hkind
      have hrest : rest.find? (·.kind != component) = some clause := by
        rwa [List.find?_cons_of_neg (by simpa using hkind)] at h
      rw [List.mapM_cons, ha, ih hrest]
      rfl
    · rw [List.find?_cons_of_pos (by simpa using hkind)] at h
      cases h
      rw [List.mapM_cons, strictPayload_of_kind_ne hkind]
      rfl

theorem getStrict_eq_ok (hmk : component.Payload p? mk) {s : Store Q}
    (h : s.misplaced? component = none) :
    ∃ payloads, s.clauses component = payloads.map mk ∧
      s.getStrict p? component = .ok payloads := by
  rw [misplaced?] at h
  rw [getStrict]
  generalize s.clauses component = clauses at h
  induction clauses with
  | nil => exact ⟨[], rfl, rfl⟩
  | cons first rest ih =>
    have hkind : first.kind = component := by
      simpa using List.find?_eq_none.mp h first List.mem_cons_self
    rw [List.find?_cons_of_neg (by simpa using hkind)] at h
    obtain ⟨a, hfirst, ha⟩ := strictPayload_of_kind_eq hmk hkind
    obtain ⟨payloads, hrest, hread⟩ := ih h
    refine ⟨a :: payloads, by rw [List.map_cons, ← hfirst, ← hrest], ?_⟩
    rw [List.mapM_cons, ha, hread]
    rfl

theorem misplaced_map (f : Q → β) (s : Store Q) (component : Component) :
    (s.map f).misplaced? component = (s.misplaced? component).map (Clause.map f) := by
  rw [misplaced?, misplaced?, clauses_map, List.find?_map]
  congr 2
  funext clause
  simp only [Function.comp_apply, (Clause.transparent_map f).kind_eq]

end Store

/-! ## Components -/

/-- Whether the dialect writes set operations. -/
def Dialect.writesUnions (d : Dialect) : Bool :=
  match d.combines with
  | .omitted => false
  | .bare | .parenthesized => true

section Components

variable {c : Compiler} {f : Q → SubSelect} {g : Q → Ledger} {s : Store Q}

section Payloads

variable {component : Component} {p? : Clause Q → Option α} {p?' : Clause SubSelect → Option β}
  {mk : α → Clause Q} {m : α → β} (hmk : component.Payload p? mk)
  (hp : ∀ clause, p?' (Clause.map f clause) = (p? clause).map m)
include hmk hp

/-- Reading refuses the first misplaced clause, as the ledger of the component does, or gives the
payloads of all its clauses. -/
theorem posts_payloads {k : List β → CompileM γ}
    (h : ∀ payloads : List α, s.clauses component = payloads.map mk →
      Posts (k (payloads.map m)) (((s.map g).written component).flatMap Clause.ledger)) :
    Posts (Compiler.payloads (s.map f) p?' component >>= k)
      ((s.map g).componentLedger component) := by
  have hstrict : (s.map f).getStrict p?' component = _ :=
    Store.getStrict_mapClauses (Clause.transparent_map f).kind_eq hp s component
  rw [Compiler.payloads, hstrict, Store.componentLedger, Store.misplaced_map]
  cases hs : s.misplaced? component with
  | some clause =>
    rw [Store.getStrict_eq_error hmk hs, ← (Clause.transparent_map g).kind_eq clause]
    exact Posts.throw _
  | none =>
    obtain ⟨payloads, hclauses, hread⟩ := Store.getStrict_eq_ok hmk hs
    rw [hread]
    exact h payloads hclauses

variable {N : Q → Prop} (hs : s.Meets .any N)
include hs

/-- A component all of whose clauses are written. -/
theorem posts_all (hsingle : component.isSingle = false) {k : List β → CompileM γ}
    (h : ∀ payloads : List α, (∀ a ∈ payloads, (mk a).Meets .any N) →
      Posts (k (payloads.map m)) (payloads.flatMap fun a => ((mk a).map g).ledger)) :
    Posts (Compiler.payloads (s.map f) p?' component >>= k)
      ((s.map g).componentLedger component) := by
  refine posts_payloads hmk hp fun payloads hclauses => ?_
  have hmeets := hs.clauses component
  rw [hclauses, List.forall_mem_map] at hmeets
  rw [Store.written, hsingle, Store.clauses_map, hclauses, List.map_map]
  simp only [Bool.false_eq_true, if_false, List.flatMap_map]
  exact h payloads hmeets

/-- A component of which only the first clause is written. -/
theorem posts_first (hsingle : component.isSingle = true) {k : Option β → CompileM γ}
    (hnone : Posts (k none) [])
    (h : ∀ a, (mk a).Meets .any N → Posts (k (some (m a))) ((mk a).map g).ledger) :
    Posts (Compiler.firstPayload? (s.map f) p?' component >>= k)
      ((s.map g).componentLedger component) := by
  rw [Compiler.firstPayload?, bind_assoc]
  refine posts_payloads hmk hp fun payloads hclauses => ?_
  have hmeets := hs.clauses component
  rw [hclauses, List.forall_mem_map] at hmeets
  rw [Store.written, hsingle, Store.clauses_map, hclauses, pure_bind]
  cases payloads with
  | nil => exact hnone
  | cons a payloads =>
    have ha := h a (hmeets a List.mem_cons_self)
    simpa using ha

end Payloads

/-- The limit is read twice, for the two numbers that are written of it. -/
theorem posts_limit :
    Posts ([Compiler.writeLimit (s.map f), Compiler.writeOffset (s.map f)].mapM id)
      ((s.map g).componentLedger .limit) := by
  have hread : ∀ k : Option Limit → CompileM (Option String),
      Compiler.firstPayload? (s.map f) Clause.limit? .limit >>= k =
        (CompileM.ofExcept (s.getStrict Clause.limit? .limit) >>=
          fun limits => k limits.head?) := by
    intro k
    have hstrict : (s.map f).getStrict Clause.limit? .limit = _ :=
      Store.getStrict_mapClauses (Clause.transparent_map f).kind_eq (Clause.limit_map f) s .limit
    rw [Compiler.firstPayload?, Compiler.payloads, hstrict, bind_assoc]
    cases s.getStrict Clause.limit? .limit with
    | error e => rfl
    | ok limits => simp [Except.map]
  rw [Compiler.writeLimit, Compiler.writeOffset, hread, hread, Store.componentLedger,
    Store.misplaced_map]
  cases hs : s.misplaced? .limit with
  | some clause =>
    -- reading for the first number fails, so the clause is a fault only once
    rw [Store.getStrict_eq_error .limit hs,
      ← (Clause.transparent_map g).kind_eq clause]
    exact Posts.throw _
  | none =>
    obtain ⟨limits, hclauses, hok⟩ := Store.getStrict_eq_ok .limit hs
    rw [hok, Store.written, Store.clauses_map, hclauses]
    have hpair := (posts_number "LIMIT" (limits.head?.bind (·.effective?))).cons
      ((posts_number "OFFSET" (limits.head?.bind (·.offset?))).cons Posts.nil)
    rw [List.append_nil] at hpair
    cases limits with
    | nil => exact hpair
    | cons limit limits =>
      change Posts _ (limit.ledger ++ [])
      rw [List.append_nil]
      exact hpair

variable (hs : s.Meets .any fun q => Posts (f q).write (g q))
include hs

theorem posts_aggregate (isDistinct : Bool) :
    Posts (c.writeAggregate (s.map f) isDistinct) ((s.map g).componentLedger .aggregate) := by
  refine posts_first .aggregate (Clause.aggregate_map f) hs rfl (Posts.pure _) ?_
  intro a _
  exact Posts.pure _

theorem posts_from : Posts (c.writeFrom (s.map f)) ((s.map g).componentLedger .from) := by
  refine posts_first .from (Clause.source_map f) hs rfl (Posts.pure _) ?_
  intro source hsource
  exact (Source.Meets.posts hsource).map _

theorem posts_lock : Posts (c.writeLock (s.map f)) ((s.map g).componentLedger .lock) := by
  refine posts_first .lock (Clause.lock_map f) hs rfl (Posts.pure _) ?_
  intro lock _
  exact Posts.pure _

theorem posts_projection (isDistinct : Bool) :
    Posts (c.writeProjection (s.map f) isDistinct)
      (if !(s.map g).has .aggregate then (s.map g).componentLedger .select else []) := by
  rw [Compiler.writeProjection, Store.has_map, Store.has_map]
  cases s.has .aggregate with
  | true => exact Posts.pure _
  | false =>
    refine posts_all .select (Clause.column_map f) hs rfl ?_
    intro columns hcolumns
    cases columns with
    | nil => exact Posts.pure _
    | cons x columns => exact (posts_columns hcolumns).map _

theorem posts_groups : Posts (c.writeGroups (s.map f)) ((s.map g).componentLedger .group) := by
  refine posts_all .group (Clause.column_map f) hs rfl ?_
  intro columns hcolumns
  cases columns with
  | nil => exact Posts.pure _
  | cons x columns => exact (posts_columns hcolumns).map _

theorem posts_orders : Posts (c.writeOrders (s.map f)) ((s.map g).componentLedger .order) := by
  refine posts_all .order (Clause.order_map f) hs rfl ?_
  intro orders _
  cases orders with
  | nil => exact Posts.pure _
  | cons x orders => exact (Posts.mapM_map fun x _ => posts_order x).map _

theorem posts_combines (parenthesize : Bool) :
    Posts (Compiler.writeCombines (s.map f) parenthesize) ((s.map g).componentLedger .union) := by
  refine posts_all .union (Clause.combine_map f) hs rfl ?_
  intro combines hcombines
  exact (Posts.mapM_map fun x hx => Combine.Meets.posts parenthesize (hcombines x hx)).map _

/-- Whether set operations are written is all that the ledgers need to know of the dialect. -/
theorem posts_setOperations :
    Posts (c.writeSetOperations (s.map f))
      (if c.dialect.writesUnions then (s.map g).componentLedger .union else []) := by
  rw [Compiler.writeSetOperations, Dialect.writesUnions]
  cases c.dialect.combines with
  | omitted => exact Posts.pure _
  | bare => exact posts_combines hs false
  | parenthesized => exact posts_combines hs true

variable (hr : c.registry = .standard)
include hr

theorem posts_joins : Posts (c.writeJoins (s.map f)) ((s.map g).componentLedger .join) := by
  refine posts_all .join (Clause.join_map f) hs rfl ?_
  intro joins hjoins
  exact (Posts.mapM_map fun x hx => Join.Meets.posts hr (hjoins x hx)).map _

theorem posts_havings : Posts (c.writeHavings (s.map f)) ((s.map g).componentLedger .having) := by
  refine posts_all .having (Clause.condition_map f) hs rfl ?_
  intro conditions hconditions
  exact (posts_terms hr hconditions).map _

/-- Without conditions there is nothing to read, so it does not matter that they are not read. -/
theorem posts_where :
    Posts (c.writeWhere (s.map f))
      (if (s.map g).has .from then (s.map g).componentLedger .where else []) := by
  rw [Compiler.writeWhere, Store.has_map, Store.has_map, Store.has_map]
  cases hfrom : s.has .from with
  | false => exact Posts.pure _
  | true =>
    cases hwhere : s.has .where with
    | false =>
      have hempty : (s.map g).componentLedger .where = [] := by
        apply Store.componentLedger_eq_nil
        rw [Store.clauses_map, (Store.has_eq_false_iff s .where).mp hwhere]
        rfl
      simp only [hempty, ite_self]
      exact Posts.pure _
    | true =>
      refine posts_all .where (Clause.condition_map f) hs rfl ?_
      intro conditions hconditions
      exact ((posts_terms hr hconditions).map Term.join).map _

theorem posts_writeSelect (isDistinct : Bool) :
    Posts (c.writeSelect (s.map f) isDistinct) ((s.map g).ledger c.dialect.writesUnions) := by
  have hfragments : Posts ((c.fragments (s.map f) isDistinct).mapM id)
      ((s.map g).ledger c.dialect.writesUnions) :=
    (posts_aggregate hs isDistinct).cons <| (posts_projection hs isDistinct).cons <|
    (posts_from hs).cons <| (posts_joins hs hr).cons <| (posts_where hs hr).cons <|
    (posts_groups hs).cons <| (posts_havings hs hr).cons <| (posts_orders hs).cons <|
    posts_limit.append <| (posts_setOperations hs).cons <| (posts_lock hs).cons Posts.nil
  exact hfragments.map joinFragments

end Components

/-! ## Query trees -/

theorem Query.ledger_eq (x : Expander) (unions : Bool) (q : Query) :
    q.ledger x unions =
      match (x.expand q.clauses).failure? with
      | some e => [.error e]
      | none => ((x.expand q.clauses).store.map (Query.ledger x unions)).ledger unions := by
  rw [Query.ledger, Query.fold_eq, Expander.expand_map]
  rfl

/-- The values that a compilation binds, in order, or the error that ends it. -/
def Compiler.bindings (c : Compiler) (q : Query) : Except CompileError (List Value) :=
  (c.compile q).outcome.map (·.bindings.toList)

section Queries

variable {c : Compiler} (hd : c.dialect ∈ Dialect.builtin) (hr : c.registry = .standard)
include hd hr

theorem posts_subselect (q : Query) :
    Posts (c.subselect q) (q.ledger c.expander c.dialect.writesUnions) := by
  induction q using Query.induction with
  | step q ih =>
    have hexpand := Compiler.expand_eq (Dialect.expandsDeepJoins_of_builtin hd) q.clauses
    have hroot := posts_writeSelect (ih.expand trivial c) hr q.isDistinct
    rw [Compiler.subselect_eq, Query.ledger_eq, ← hexpand]
    refine (Posts.record _).bind fun _ => ?_
    cases (c.expand q.clauses).failure? with
    | some e => exact Posts.throw e
    | none => exact hroot

theorem posts_select (q : Query) :
    Posts (c.select q)
      ((q.clauses.map (Query.ledger c.expander c.dialect.writesUnions)).ledger
        c.dialect.writesUnions) :=
  posts_writeSelect (Store.meets_any (posts_subselect hd hr) q.clauses) hr q.isDistinct

theorem Compiler.bindings_eq_settle (q : Query) :
    c.bindings q = (q.ledger c.expander c.dialect.writesUnions).settle := by
  have hexpand := Compiler.expand_eq (Dialect.expandsDeepJoins_of_builtin hd) q.clauses
  rw [Compiler.bindings, Compiler.outcome_compile, Query.ledger_eq, ← hexpand]
  cases (c.expand q.clauses).failure? with
  | some e => rfl
  | none =>
    obtain ⟨⟨outcome, values, events⟩, hrun, hsettle⟩ :=
      posts_select hd hr ⟨(c.expand q.clauses).store, q.isDistinct⟩
    simp only [hrun, ← hsettle, Emitted.run]
    cases outcome with
    | error e => rfl
    | ok text => simp [Except.map]

end Queries

end SqlSelect
