import SqlSelect.Proofs.Unrolling

/-!
# Laws of the writers

One level of the recursion is made of a few steps, and a `Law` is a property that these steps keep.
Whatever the property is, a job has it if the jobs that it hands on have it. That two functions
agree is such a law, so a job depends on the jobs that it hands on and on no others.
-/

namespace SqlSelect

variable {α β γ ι : Type}

/-! ## Errors that report a tag -/

section Reports

/-- The tag that an error reports to have no handler. -/
def CompileError.tag? : CompileError → Option String
  | .unresolvedHandler tag => some tag
  | .missingRoot _ | .invalidClause .. | .placeholderMismatch .. => none

variable {Q : Type} {s : Store Q} {e : CompileError}

theorem Expander.tag_of_expandEach {x : Expander} {triggers : List (Nat × DeepJoin)}
    (h : (x.expandEach s triggers).failure? = some e) : e.tag? = none := by
  induction triggers generalizing s with
  | nil => cases h
  | cons t ts ih =>
    obtain ⟨id, d⟩ := t
    rw [Expander.expandEach] at h
    obtain ⟨hchain, _⟩ | ⟨hchain, _⟩ := x.chain_cases s d
    · rw [hchain] at h
      exact ih h
    · rw [hchain] at h
      cases h
      rfl

/-- Expansion fails for want of a root or at a misplaced clause, so it reports no tag. -/
theorem Compiler.tag_of_expand {c : Compiler} (h : (c.expand s).failure? = some e) :
    e.tag? = none := by
  unfold Compiler.expand Expander.expand at h
  split at h
  · split at h
    · rename_i hread
      cases h
      have hget := s.deepJoins_eq_getStrict
      rw [hread] at hget
      obtain ⟨found, rfl⟩ := Store.getStrict_error hget.symm
      rfl
    · exact Expander.tag_of_expandEach h
  · cases h

end Reports

/-! ## Laws -/

/-- A property of actions with a parameter that the steps of the writers keep. A failure is such a
step unless it reports a tag. -/
structure Law (ι : Type) where
  Holds {α : Type} : (ι → CompileM α) → Prop
  pure {α : Type} (a : α) : Holds fun _ => (Pure.pure a : CompileM α)
  bind {α β : Type} {m : ι → CompileM α} {k : ι → α → CompileM β} :
    Holds m → (∀ a, Holds fun i => k i a) → Holds fun i => m i >>= k i
  refuse {α : Type} {e : CompileError} : e.tag? = none → Holds fun _ => (throw e : CompileM α)
  bindValue (value : Value) : Holds fun _ => CompileM.bindValue value
  bindValues (values : List Value) : Holds fun _ => CompileM.bindValues values

namespace Law

variable {L : Law ι}

theorem map {m : ι → CompileM α} {g : α → β} (h : L.Holds m) :
    L.Holds fun i => do return g (← m i) :=
  L.bind h fun a => L.pure (g a)

theorem mapM {f : ι → α → CompileM β} {xs : List α} (h : ∀ x ∈ xs, L.Holds fun i => f i x) :
    L.Holds fun i => xs.mapM (f i) := by
  induction xs with
  | nil => exact L.pure []
  | cons x xs ih =>
    rw [List.forall_mem_cons] at h
    simp only [List.mapM_cons]
    exact L.bind h.1 fun _ => map (ih h.2)

theorem sequence {ms : List (ι → CompileM α)} (h : ∀ m ∈ ms, L.Holds m) :
    L.Holds fun i => (ms.map fun m => m i).mapM id := by
  simp only [List.mapM_map]
  exact mapM h

theorem fragment (f : Fragment) : L.Holds fun _ => CompileM.fragment f := by
  unfold CompileM.fragment
  split
  · exact map (L.bindValues f.bindings)
  · exact L.refuse rfl

/-- What is read from a component are its payloads, if no clause is refused. -/
theorem read {s : Store Query} {p? : Clause Query → Option α} {component : Component}
    {k : ι → List α → CompileM β} (h : L.Holds fun i => k i (s.get p? component)) :
    L.Holds fun i => CompileM.ofExcept (s.getStrict p? component) >>= k i := by
  cases hread : s.getStrict p? component with
  | error e =>
    obtain ⟨found, rfl⟩ := Store.getStrict_error hread
    exact L.refuse rfl
  | ok xs =>
    rw [Store.get_of_getStrict hread]
    exact h

section Items

variable {c : Compiler} {f : ι → Query → SubSelect}

theorem holds_source {x : Source Query} (h : x.Meets .any fun q => L.Holds fun i => (f i q).write) :
    L.Holds fun i => c.writeSource (x.map (f i)) := by
  cases x with
  | table name alias? => exact L.pure _
  | raw fragment => exact L.fragment fragment
  | query query alias? => exact map h

theorem holds_column {x : Column Query} (h : x.Meets .any fun q => L.Holds fun i => (f i q).write) :
    L.Holds fun i => c.writeColumn (x.map (f i)) := by
  cases x with
  | name name => exact L.pure _
  | raw fragment => exact L.fragment fragment
  | query query label => exact map h

theorem holds_combine {x : Combine Query} (h : x.Meets .any fun q => L.Holds fun i => (f i q).write)
    (parenthesize : Bool) : L.Holds fun i => Compiler.writeCombine parenthesize (x.map (f i)) := by
  cases x with
  | query operation all query => exact map h
  | raw fragment => exact L.fragment fragment

theorem holds_order (x : Order) : L.Holds fun _ => c.writeOrder x := by
  cases x with
  | column column direction => exact L.pure _
  | raw fragment => exact L.fragment fragment
  | random seed? => exact L.pure _

theorem holds_number (keyword : String) (n? : Option UInt32) :
    L.Holds fun _ => Compiler.writeNumber keyword n? := by
  cases n? with
  | none => exact L.pure _
  | some n => exact map (L.bindValue _)

end Items

/-- The rules of the library, apart from the one that hands conditions on. -/
theorem holds_predicate {c : Compiler} {f : ι → Query → SubSelect} (negated : Bool) :
    ∀ (p : Predicate Query) (form : PredicateForm), p.form? = some form → form ≠ .group →
      (p.Meets .any fun q => L.Holds fun i => (f i q).write) →
      L.Holds fun i => c.writePredicate form negated (p.map (f i))
  | .compare _ _ value, _, rfl, _, _ => by
    simp only [Predicate.map, Compiler.writePredicate]
    exact map (L.bindValue value)
  | .text _ _ _ caseSensitive, _, rfl, _, _ => by
    simp only [Predicate.map, Compiler.writePredicate]
    cases caseSensitive <;> exact map (L.bindValue _)
  | .group _, _, rfl, hgroup, _ => absurd rfl hgroup
  | .raw fragment, _, rfl, _, _ => by
    simp only [Predicate.map, Compiler.writePredicate]
    exact map (L.fragment fragment)
  | .between _ lower upper, _, rfl, _, _ => by
    simp only [Predicate.map, Compiler.writePredicate]
    exact L.bind (L.bindValue lower) fun _ => map (L.bindValue upper)
  | .oneOf _ values, _, rfl, _, _ => by
    simp only [Predicate.map, Compiler.writePredicate]
    split
    · exact L.pure _
    · exact map (mapM fun value _ => L.bindValue value)
  | .inQuery .., _, rfl, _, hp | .existsQuery .., _, rfl, _, hp => by
    simp only [Predicate.Meets] at hp
    simp only [Predicate.map, Compiler.writePredicate]
    exact map hp
  | .compareColumns .., _, rfl, _, _ | .isNull .., _, rfl, _, _ => by
    simp only [Predicate.map, Compiler.writePredicate]
    exact L.pure _

section Components

variable {c : Compiler} {f : ι → Query → SubSelect} {s : Store Query}

section Payloads

variable {p? : Clause Query → Option α} {p?' : Clause SubSelect → Option β} {m : ι → α → β}
  (hp : ∀ i clause, p?' (Clause.map (f i) clause) = (p? clause).map (m i)) {component : Component}
include hp

theorem payloads {k : ι → List β → CompileM γ}
    (h : L.Holds fun i => k i ((s.get p? component).map (m i))) :
    L.Holds fun i => Compiler.payloads (s.map (f i)) p?' component >>= k i := by
  simp only [Compiler.payloads_map (hp _), bind_map_left]
  exact read h

theorem firstPayload {k : ι → Option β → CompileM γ}
    (h : L.Holds fun i => k i ((s.get p? component).head?.map (m i))) :
    L.Holds fun i => Compiler.firstPayload? (s.map (f i)) p?' component >>= k i := by
  simp only [Compiler.firstPayload?, bind_assoc, pure_bind]
  refine payloads hp ?_
  simp only [List.head?_map]
  exact h

end Payloads

theorem holds_aggregate (isDistinct : Bool) :
    L.Holds fun i => c.writeAggregate (s.map (f i)) isDistinct := by
  refine firstPayload (fun i => Clause.aggregate_map (f i)) ?_
  cases (s.get Clause.aggregate? .aggregate).head? <;> exact L.pure _

theorem holds_orders : L.Holds fun i => c.writeOrders (s.map (f i)) := by
  refine payloads (fun i => Clause.order_map (f i)) ?_
  simp only [List.map_id]
  split
  · exact L.pure _
  · exact map (mapM fun x _ => holds_order x)

theorem holds_limit : L.Holds fun i => Compiler.writeLimit (s.map (f i)) :=
  firstPayload (fun i => Clause.limit_map (f i)) (holds_number _ _)

theorem holds_offset : L.Holds fun i => Compiler.writeOffset (s.map (f i)) :=
  firstPayload (fun i => Clause.limit_map (f i)) (holds_number _ _)

theorem holds_lock : L.Holds fun i => c.writeLock (s.map (f i)) :=
  firstPayload (fun i => Clause.lock_map (f i)) (L.pure _)

variable (hs : s.Meets .any fun q => L.Holds fun i => (f i q).write)
include hs

theorem holds_columns (component : Component) :
    L.Holds fun i => c.writeColumns ((s.get Clause.column? component).map (Column.map (f i))) := by
  simp only [Compiler.writeColumns, List.mapM_map]
  exact map (mapM fun x hx => holds_column (hs.get (fun _ _ => Clause.Meets.column) component x hx))

theorem holds_projection (isDistinct : Bool) :
    L.Holds fun i => c.writeProjection (s.map (f i)) isDistinct := by
  simp only [Compiler.writeProjection, Store.has_map]
  split
  · exact L.pure _
  · refine payloads (fun i => Clause.column_map (f i)) ?_
    simp only [List.isEmpty_map]
    split
    · exact L.pure _
    · exact map (holds_columns hs .select)

theorem holds_groups : L.Holds fun i => c.writeGroups (s.map (f i)) := by
  refine payloads (fun i => Clause.column_map (f i)) ?_
  simp only [List.isEmpty_map]
  split
  · exact L.pure _
  · exact map (holds_columns hs .group)

theorem holds_combines (parenthesize : Bool) :
    L.Holds fun i => Compiler.writeCombines (s.map (f i)) parenthesize := by
  refine payloads (fun i => Clause.combine_map (f i)) ?_
  simp only [List.mapM_map]
  refine map (mapM fun x hx => holds_combine ?_ parenthesize)
  exact hs.get (fun _ _ => Clause.Meets.combine) .union x hx

end Components

/-! ## Jobs -/

section Jobs

variable {c : Compiler} {write : ι → Job → CompileM String}

theorem holds_terms {items : List (Condition Query)}
    (h : ∀ x ∈ items, L.Holds fun i => write i (.condition x)) :
    L.Holds fun i => Compiler.unrollTerms (write i) items := by
  induction items with
  | nil => exact L.pure _
  | cons item items ih =>
    rw [List.forall_mem_cons] at h
    exact L.bind h.1 fun _ => map (ih h.2)

theorem holds_select {q : Query} (h : ∀ job ∈ c.calls (.select q), L.Holds fun i => write i job) :
    L.Holds fun i => c.unrollSelect (write i) q := by
  simp only [Compiler.calls, List.forall_mem_append, List.forall_mem_cons, List.forall_mem_map] at h
  obtain ⟨⟨⟨⟨⟨hfrom, htable⟩, hon⟩, hwhere, hhaving⟩, hnested⟩, hbare, hparenthesized, _⟩ := h
  have hs : q.clauses.Meets .any fun p =>
      L.Holds fun i => (Compiler.handOn (write i) p).write := q.clauses.meets_iff_nested.mpr hnested
  have hsource : L.Holds fun i => Compiler.unrollFrom (write i) q.clauses := by
    refine read ?_
    cases hhead : (q.clauses.get Clause.source? .from).head? with
    | none => exact L.pure _
    | some source => exact map (hfrom source (List.mem_of_head? hhead))
  have hjoins : L.Holds fun i => Compiler.unrollJoins (write i) q.clauses := by
    refine read (map (mapM fun join hjoin => ?_))
    exact L.bind (htable join hjoin) fun _ => map (hon join hjoin)
  have hrows : L.Holds fun i => Compiler.unrollWhere (write i) q.clauses := by
    simp only [Compiler.unrollWhere]
    split
    · exact read (map hwhere)
    · exact L.pure _
  have hgroups : L.Holds fun i => Compiler.unrollHavings (write i) q.clauses :=
    read (map (holds_terms hhaving))
  have hcombines : L.Holds fun i => c.unrollSetOperations (write i) q := by
    simp only [Compiler.unrollSetOperations]
    split
    · exact L.pure _
    · exact map hbare
    · exact map hparenthesized
  let s i := q.clauses.map (Compiler.handOn (write i))
  have hall : ∀ m ∈ [fun i => c.writeAggregate (s i) q.isDistinct,
      fun i => c.writeProjection (s i) q.isDistinct,
      fun i => Compiler.unrollFrom (write i) q.clauses,
      fun i => Compiler.unrollJoins (write i) q.clauses,
      fun i => Compiler.unrollWhere (write i) q.clauses, fun i => c.writeGroups (s i),
      fun i => Compiler.unrollHavings (write i) q.clauses, fun i => c.writeOrders (s i),
      fun i => Compiler.writeLimit (s i), fun i => Compiler.writeOffset (s i),
      fun i => c.unrollSetOperations (write i) q, fun i => c.writeLock (s i)], L.Holds m := by
    simp only [List.forall_mem_cons]
    exact ⟨holds_aggregate q.isDistinct, holds_projection hs q.isDistinct, hsource, hjoins, hrows,
      holds_groups hs, hgroups, holds_orders, holds_limit, holds_offset, hcombines, holds_lock,
      fun _ => List.not_mem_nil.elim⟩
  exact map (sequence hall)

/-- A level of the recursion obeys the law if the jobs that are handed on do. A condition is left
out here, since its handler can be any function. -/
theorem holds_unroll
    (hrecord : ∀ s : Store Query, L.Holds fun _ => CompileM.record (c.expand s).events)
    {job : Job} (hcalls : ∀ j ∈ c.calls job, L.Holds fun i => write i j)
    (hcondition : ∀ x, job = .condition x → L.Holds fun i => c.unrollCondition (write i) x) :
    L.Holds fun i => c.unroll (write i) job := by
  cases job with
  | subselect q =>
    refine L.bind (hrecord q.clauses) fun _ => ?_
    cases hfailure : (c.expand q.clauses).failure? with
    | some e => exact L.refuse (Compiler.tag_of_expand hfailure)
    | none => exact hcalls _ List.mem_cons_self
  | select q => exact holds_select hcalls
  | source x =>
    rw [Compiler.calls, List.forall_mem_map] at hcalls
    have hnested : (Clause.from x).Meets .any fun q =>
        L.Holds fun i => (Compiler.handOn (write i) q).write :=
      (Clause.meets_iff_queries _).mpr hcalls
    exact holds_source hnested
  | conditions items =>
    rw [Compiler.calls, List.forall_mem_map] at hcalls
    exact map (holds_terms hcalls)
  | condition x => exact hcondition x rfl
  | combines q parenthesize =>
    rw [Compiler.calls, List.forall_mem_map] at hcalls
    have hnested : q.clauses.Meets .any fun p =>
        L.Holds fun i => (Compiler.handOn (write i) p).write :=
      q.clauses.meets_iff_nested.mpr hcalls
    exact map (holds_combines hnested parenthesize)

/-- A condition with a rule of the library. -/
theorem holds_unrollCondition {x : Condition Query} {form : PredicateForm}
    (hcalls : ∀ j ∈ c.calls (.condition x), L.Holds fun i => write i j)
    (hfind : c.registry.find? x.predicate.tag = some (.standard form)) :
    L.Holds fun i => c.unrollCondition (write i) x := by
  obtain ⟨items, _, _, hjobs, hgroup⟩ | ⟨hother, hjobs, hrule⟩ :=
    Compiler.unrollCondition_of_standard hfind
  · simp only [hgroup]
    exact map (hcalls _ (hjobs ▸ List.mem_cons_self))
  · rw [hjobs, List.forall_mem_map] at hcalls
    obtain ⟨byOr, negated, p⟩ := x
    simp only [hrule]
    by_cases hform : p.form? = some form
    · refine holds_predicate negated p form hform (hother hform) ?_
      exact (Condition.meets_iff_queries ⟨byOr, negated, p⟩).mpr hcalls
    · have hrefuse : ∀ i, c.writePredicate form negated (p.map (Compiler.handOn (write i))) =
          throw (.invalidClause "condition" p.kind) := by
        intro i
        have hne : (p.map (Compiler.handOn (write i))).form? ≠ some form := p.form_map ▸ hform
        rw [Compiler.writePredicate_of_ne hne, Predicate.kind_map]
      simp only [hrefuse]
      exact L.refuse rfl

end Jobs

/-- The two actions are the same. -/
def agree : Law Bool where
  Holds m := m true = m false
  pure _ := rfl
  bind hm hk := by
    dsimp only
    rw [hm]
    exact bind_congr hk
  refuse _ := rfl
  bindValue _ := rfl
  bindValues _ := rfl

end Law

namespace Compiler

variable {c : Compiler} {write write' : Job → CompileM String}

theorem unrollCondition_congr {x : Condition Query}
    (h : ∀ job ∈ c.calls (.condition x), write job = write' job) :
    c.unrollCondition write x = c.unrollCondition write' x := by
  obtain ⟨items, _, _, hjobs, hgroup⟩ | ⟨_, hjobs, hwrite⟩ := c.unrollCondition_cases x
  · rw [hgroup, hgroup, h _ (hjobs ▸ List.mem_cons_self)]
  · rw [hjobs, List.forall_mem_map] at h
    have hnested : x.Meets .any fun q => handOn write q = handOn write' q :=
      x.meets_iff_queries.mpr fun q hq => congrArg (SubSelect.mk q) (h q hq)
    rw [hwrite, hwrite, Condition.map_congr hnested]

/-- A level of the recursion depends on the jobs that are handed on and on no others. -/
theorem unroll_congr {job : Job} (h : ∀ j ∈ c.calls job, write j = write' j) :
    c.unroll write job = c.unroll write' job := by
  have hagree : Law.agree.Holds fun i => c.unroll (cond i write write') job := by
    refine Law.holds_unroll (fun _ => rfl) h ?_
    rintro x rfl
    exact unrollCondition_congr h
  exact hagree

end Compiler

end SqlSelect
