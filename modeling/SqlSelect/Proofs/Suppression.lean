import SqlSelect.Proofs.Composition

/-!
# Clauses without effect

Five gates keep clauses out of a statement. An aggregate takes the place of the projection, a
restriction needs a source, a dialect may leave out set operations, deep joins are not written, and
of a source, an aggregate, a limit or a lock only the first is used. What a gate keeps out may be
anything, also a clause that would be refused if it were read, or one that nests a query that cannot
be compiled. The last gate alone comes after the check of the component, so the kinds of the unused
clauses count.

`Store.writes` and `Store.written` say what passes the gates. Stores that agree on it are written by
the same action.
-/

namespace SqlSelect

variable {Q α : Type}

/-- Where a component is written at all, the stores have the same clauses to write and, of all its
clauses, the same kinds in the same order. -/
structure Store.SameWritten (unions : Bool) (s s' : Store Q) : Prop where
  written_eq : ∀ component, s.writes unions component = true →
    s.written component = s'.written component
  kinds_eq : ∀ component, s.writes unions component = true →
    (s.clauses component).map Clause.kind = (s'.clauses component).map Clause.kind

/-! ## Reading what is written -/

namespace Store

theorem misplaced_kind_eq (s : Store Q) (component : Component) :
    (s.misplaced? component).map Clause.kind =
      ((s.clauses component).map Clause.kind).find? (· != component) := by
  rw [misplaced?, List.find?_map]
  rfl

/-- The first payload is that of the first clause. -/
theorem head_of_getStrict {p? : Clause Q → Option α} {s : Store Q} {component : Component}
    {payloads : List α} (h : s.getStrict p? component = .ok payloads) :
    payloads.head? = (s.clauses component).head?.bind p? := by
  have hread := mapM_eq_ok_iff.mp h
  rw [get_of_getStrict h, get]
  cases hclauses : s.clauses component with
  | nil => rfl
  | cons first rest =>
    rw [hclauses] at hread
    obtain ⟨a, _, ha, _, _⟩ := List.forall₂_cons_left_iff.mp hread
    have hfirst := payload_of_strictPayload ha
    rw [List.filterMap_cons_some hfirst]
    exact hfirst.symm

end Store

namespace Store.SameWritten

variable {unions : Bool} {s s' : Store Q} {component : Component}

theorem map {R : Type} (h : s.SameWritten unions s') (f : Q → R) :
    (s.map f).SameWritten unions (s'.map f) where
  written_eq component hwrites := by
    rw [Store.writes_map] at hwrites
    rw [Store.written_map, Store.written_map, h.written_eq component hwrites]
  kinds_eq component hwrites := by
    have hkind : Clause.kind ∘ Clause.map f = Clause.kind :=
      funext (Clause.transparent_map f).kind_eq
    rw [Store.writes_map] at hwrites
    rw [Store.clauses_map, Store.clauses_map, List.map_map, List.map_map, hkind,
      h.kinds_eq component hwrites]

theorem clauses_eq (h : s.SameWritten unions s') (hwrites : s.writes unions component = true)
    (hsingle : component.isSingle = false) : s.clauses component = s'.clauses component := by
  have hwritten := h.written_eq component hwrites
  simpa only [written, hsingle, Bool.false_eq_true, if_false] using hwritten

theorem head_eq (h : s.SameWritten unions s') (hwrites : s.writes unions component = true)
    (hsingle : component.isSingle = true) :
    (s.clauses component).head? = (s'.clauses component).head? := by
  have hwritten := congrArg List.head? (h.written_eq component hwrites)
  simpa only [written, hsingle, if_true, List.head?_take, Nat.one_ne_zero, if_false] using hwritten

theorem has_eq (h : s.SameWritten unions s') (component : Component)
    (hwrites : s.writes unions component = true) : s.has component = s'.has component := by
  have hkinds := h.kinds_eq component hwrites
  rw [Bool.eq_iff_iff, has_eq_true_iff, has_eq_true_iff, ne_eq, ne_eq,
    ← List.map_eq_nil_iff (f := Clause.kind), hkinds, List.map_eq_nil_iff]

end Store.SameWritten

section Writing

variable {unions : Bool} {s s' : Store SubSelect} (h : s.SameWritten unions s')
include h

/-- A component all of whose clauses are written. -/
theorem payloads_eq_of_written (component : Component) (p? : Clause SubSelect → Option α)
    (hwrites : s.writes unions component = true) (hsingle : component.isSingle = false) :
    Compiler.payloads s p? component = Compiler.payloads s' p? component := by
  rw [Compiler.payloads, Compiler.payloads, Store.getStrict, Store.getStrict,
    h.clauses_eq hwrites hsingle]

/-- A component of which only the first clause is written: the others are checked, and the check
sees their kinds. -/
theorem firstPayload_eq_of_written {component : Component} {p? : Clause SubSelect → Option α}
    {mk : α → Clause SubSelect} (hmk : component.Payload p? mk)
    (hwrites : s.writes unions component = true) (hsingle : component.isSingle = true) :
    Compiler.firstPayload? s p? component = Compiler.firstPayload? s' p? component := by
  have hmisplaced : (s.misplaced? component).map Clause.kind =
      (s'.misplaced? component).map Clause.kind := by
    rw [Store.misplaced_kind_eq, Store.misplaced_kind_eq, h.kinds_eq component hwrites]
  rw [Compiler.firstPayload?, Compiler.firstPayload?, Compiler.payloads, Compiler.payloads]
  cases hs : s.misplaced? component with
  | some clause =>
    rw [hs, Option.map_some, eq_comm, Option.map_eq_some_iff] at hmisplaced
    obtain ⟨clause', hs', hkind⟩ := hmisplaced
    rw [Store.getStrict_eq_error hmk hs, Store.getStrict_eq_error hmk hs', hkind]
  | none =>
    rw [hs, Option.map_none, eq_comm, Option.map_eq_none_iff] at hmisplaced
    obtain ⟨payloads, _, hread⟩ := Store.getStrict_eq_ok hmk hs
    obtain ⟨payloads', _, hread'⟩ := Store.getStrict_eq_ok hmk hmisplaced
    have hhead : payloads.head? = payloads'.head? := by
      rw [Store.head_of_getStrict hread, Store.head_of_getStrict hread',
        h.head_eq hwrites hsingle]
    rw [hread, hread']
    exact congrArg (Pure.pure (f := CompileM)) hhead

end Writing

/-- What is kept out of a statement does not matter to any part of it. -/
theorem writeSelect_eq_of_written {c : Compiler} {s s' : Store SubSelect}
    (h : s.SameWritten c.dialect.writesUnions s') (isDistinct : Bool) :
    c.writeSelect s isDistinct = c.writeSelect s' isDistinct := by
  have hprojection : c.writeProjection s isDistinct = c.writeProjection s' isDistinct := by
    rw [Compiler.writeProjection, Compiler.writeProjection,
      ← h.has_eq .aggregate rfl]
    cases hhas : s.has .aggregate with
    | true => rfl
    | false =>
      have hwrites : s.writes c.dialect.writesUnions .select = true := by
        rw [Store.writes, hhas]
        rfl
      rw [payloads_eq_of_written h .select Clause.column? hwrites rfl]
  have hrestriction : c.writeWhere s = c.writeWhere s' := by
    rw [Compiler.writeWhere, Compiler.writeWhere, ← h.has_eq .from rfl]
    cases hhas : s.has .from with
    | false => rfl
    | true =>
      have hwrites : s.writes c.dialect.writesUnions .where = true := hhas
      rw [payloads_eq_of_written h .where Clause.condition? hwrites rfl, h.has_eq .where hwrites]
  have hcombines : c.writeSetOperations s = c.writeSetOperations s' := by
    have hread : c.dialect.combines ≠ .omitted → ∀ parenthesize,
        Compiler.writeCombines s parenthesize = Compiler.writeCombines s' parenthesize := by
      intro hstyle parenthesize
      have hwrites : s.writes c.dialect.writesUnions .union = true := by
        rw [Store.writes, Dialect.writesUnions]
        cases hcombines : c.dialect.combines with
        | omitted => exact absurd hcombines hstyle
        | bare => rfl
        | parenthesized => rfl
      rw [Compiler.writeCombines, Compiler.writeCombines,
        payloads_eq_of_written h .union Clause.combine? hwrites rfl]
    rw [Compiler.writeSetOperations, Compiler.writeSetOperations]
    cases hstyle : c.dialect.combines with
    | omitted => rfl
    | bare => exact hread (by simp [hstyle]) false
    | parenthesized => exact hread (by simp [hstyle]) true
  have hfragments : c.fragments s isDistinct = c.fragments s' isDistinct := by
    rw [Compiler.fragments, Compiler.fragments, hprojection, hrestriction, hcombines,
      Compiler.writeAggregate, Compiler.writeAggregate, Compiler.writeFrom, Compiler.writeFrom,
      Compiler.writeJoins, Compiler.writeJoins, Compiler.writeGroups, Compiler.writeGroups,
      Compiler.writeHavings, Compiler.writeHavings, Compiler.writeOrders, Compiler.writeOrders,
      Compiler.writeLimit, Compiler.writeLimit, Compiler.writeOffset, Compiler.writeOffset,
      Compiler.writeLock, Compiler.writeLock,
      firstPayload_eq_of_written h .aggregate rfl rfl,
      firstPayload_eq_of_written h .from rfl rfl,
      firstPayload_eq_of_written h .limit rfl rfl,
      firstPayload_eq_of_written h .lock rfl rfl,
      payloads_eq_of_written h .join Clause.join? rfl rfl,
      payloads_eq_of_written h .group Clause.column? rfl rfl,
      payloads_eq_of_written h .having Clause.condition? rfl rfl,
      payloads_eq_of_written h .order Clause.order? rfl rfl]
  rw [Compiler.writeSelect, Compiler.writeSelect, hfragments]

/-- Queries that agree on what is written are written alike in every context: to the same text with
the same values, or with the same error. They may differ in everything else: in the projection
beside an aggregate, in conditions without a source, in set operations where the dialect writes
none, in deep joins, and in what the second and later sources, aggregates, limits and locks are. -/
theorem suppressed_clauses_inert (c : Compiler) {q q' : Query}
    (hdistinct : q.isDistinct = q'.isDistinct)
    (h : q.clauses.SameWritten c.dialect.writesUnions q'.clauses) : c.select q = c.select q' := by
  rw [Compiler.select, Compiler.select, hdistinct]
  exact writeSelect_eq_of_written (h.map c.prepare) q'.isDistinct

/-- Two pairs of queries, one with an aggregate and a source and one with neither. The second of
each pair has clauses that would be refused if they were read. -/
theorem suppressed_clauses_inert_sample :
    let bad : Fragment := ⟨"?", []⟩
    let count : Clause Query := .aggregate ⟨.count, ["*"], none⟩
    let base : Store Query :=
      (Store.add ⟨[], 0⟩ .from (.from (.table "t" none))).add .aggregate count
    let q : Query := ⟨(base.add .limit (.limit ⟨some 3, none⟩)).add .from (.from (.table "u" none)),
      false⟩
    let q' : Query := ⟨((((base.add .select (.having (.ofPredicate (.raw bad)))).add .union
      count).add .deepJoin count).add .limit (.limit ⟨some 3, none⟩)).add .from (.from (.raw bad)),
      false⟩
    let p : Query := ⟨Store.add ⟨[], 0⟩ .select (.select (.name "a")), true⟩
    let p' : Query := ⟨(p.clauses.add .where count).add .where (.where (.ofPredicate (.raw bad))),
      true⟩
    q.clauses.SameWritten Dialect.generic.writesUnions q'.clauses ∧
      Compiler.select {} q = Compiler.select {} q' ∧
      p.clauses.SameWritten Dialect.sqlite.writesUnions p'.clauses ∧
      Compiler.select { dialect := .sqlite } p = Compiler.select { dialect := .sqlite } p' ∧
      ∃ text ctx, Compiler.select {} q' {} = .ok text ctx ∧
        text = "SELECT COUNT(*) AS count FROM t LIMIT ?" := by
  intro bad count base q q' p p'
  have hq : q.clauses.SameWritten Dialect.generic.writesUnions q'.clauses := by
    constructor <;> intro component hwrites <;> cases component <;> first | rfl | cases hwrites
  have hp : p.clauses.SameWritten Dialect.sqlite.writesUnions p'.clauses := by
    constructor <;> intro component hwrites <;> cases component <;> first | rfl | cases hwrites
  refine ⟨hq, suppressed_clauses_inert {} rfl hq, hp, ?_, ?_⟩
  · exact suppressed_clauses_inert { dialect := .sqlite } rfl hp
  · exact ⟨_, _, rfl, by decide +kernel⟩

end SqlSelect
