import SqlSelect.Proofs.Emission
import SqlSelect.Proofs.Erasure
import SqlSelect.Proofs.Refinement

/-!
# Values do not influence the text

Compiling a query and compiling it without its values run side by side: at every step both fail with
the same error, or both write the same text and bind equally many values. So two queries that are
the same up to their values have the same text or the same error.
-/

namespace SqlSelect

variable {α β γ δ : Type}

/-! ## Actions that run side by side -/

/-- Both fail with the same error, or both succeed with related results. -/
inductive SameOutcome (T : α → β → Prop) : Except CompileError α → Except CompileError β → Prop
  | error (e : CompileError) : SameOutcome T (.error e) (.error e)
  | ok {a : α} {b : β} : T a b → SameOutcome T (.ok a) (.ok b)

theorem sameOutcome_eq_iff {r r' : Except CompileError α} : SameOutcome Eq r r' ↔ r = r' := by
  constructor
  · intro h
    cases h with
    | error e => rfl
    | ok hab => rw [hab]
  · rintro rfl
    cases r with
    | error e => exact .error e
    | ok a => exact .ok rfl

/-- In every context the actions have the same outcome and bind equally many values. -/
def Agrees (T : α → β → Prop) (m : CompileM α) (m' : CompileM β) : Prop :=
  ∃ (w : Emitted α) (w' : Emitted β), m = w.run ∧ m' = w'.run ∧
    w.values.length = w'.values.length ∧ SameOutcome T w.outcome w'.outcome

namespace Agrees

variable {T : α → β → Prop} {T' : γ → δ → Prop}

theorem pure {a : α} {b : β} (h : T a b) :
    Agrees T (Pure.pure a : CompileM α) (Pure.pure b : CompileM β) :=
  ⟨_, _, Emitted.run_pure a, Emitted.run_pure b, rfl, .ok h⟩

theorem throw (e : CompileError) :
    Agrees T (MonadExcept.throw e : CompileM α) (MonadExcept.throw e : CompileM β) :=
  ⟨_, _, Emitted.run_throw e, Emitted.run_throw e, rfl, .error e⟩

theorem bind {m m' : CompileM α} {k : α → CompileM γ} {k' : α → CompileM δ}
    (hm : Agrees Eq m m') (hk : ∀ a, Agrees T' (k a) (k' a)) :
    Agrees T' (m >>= k) (m' >>= k') := by
  obtain ⟨⟨outcome, vs, es⟩, ⟨outcome', vs', es'⟩, rfl, rfl, hlength, hout⟩ := hm
  cases hout with
  | error e =>
    exact ⟨_, _, Emitted.run_error_bind e vs es k, Emitted.run_error_bind e vs' es' k', hlength,
      .error e⟩
  | @ok a _ heq =>
    subst heq
    obtain ⟨w, w', hw, hw', hlength', hout⟩ := hk a
    refine ⟨_, _, Emitted.run_ok_bind _ vs es hw, Emitted.run_ok_bind _ vs' es' hw', ?_, hout⟩
    simp only [List.length_append, hlength', show vs.length = vs'.length from hlength]

theorem symm {m m' : CompileM α} (h : Agrees Eq m m') : Agrees Eq m' m := by
  obtain ⟨w, w', hw, hw', hlength, hout⟩ := h
  exact ⟨w', w, hw', hw, hlength.symm, sameOutcome_eq_iff.mpr (sameOutcome_eq_iff.mp hout).symm⟩

theorem trans {m m' m'' : CompileM α} (h : Agrees Eq m m') (h' : Agrees Eq m' m'') :
    Agrees Eq m m'' := by
  obtain ⟨w, w', hw, hw', hlength, hout⟩ := h
  obtain ⟨v, v', hv, hv', hlength', hout'⟩ := h'
  obtain rfl := Emitted.run_injective (hw'.symm.trans hv)
  rw [sameOutcome_eq_iff] at hout hout'
  exact ⟨w, v', hw, hv', hlength.trans hlength', sameOutcome_eq_iff.mpr (hout.trans hout')⟩

/-- The same function of equal results. -/
theorem mapEq {m m' : CompileM α} (h : Agrees Eq m m') (g : α → γ) :
    Agrees Eq (do return g (← m)) (do return g (← m')) :=
  bind h fun _ => pure rfl

theorem bindValue (v v' : Value) : Agrees Eq (CompileM.bindValue v) (CompileM.bindValue v') :=
  ⟨_, _, Emitted.run_bindValue v, Emitted.run_bindValue v', rfl, .ok rfl⟩

theorem record (es es' : List Event) : Agrees Eq (CompileM.record es) (CompileM.record es') :=
  ⟨_, _, Emitted.run_record es, Emitted.run_record es', rfl, .ok rfl⟩

/-- Whether a fragment is refused depends on the number of its values only. -/
theorem fragment (f : Fragment) :
    Agrees Eq (CompileM.fragment f) (CompileM.fragment f.withoutValues) := by
  have hlength : f.withoutValues.bindings.length = f.bindings.length := List.length_map ..
  have hsql : f.withoutValues.sql = f.sql := rfl
  rw [CompileM.fragment, CompileM.fragment, hlength, hsql]
  split
  · refine bind ?_ fun _ => pure rfl
    exact ⟨_, _, Emitted.run_bindValues _, Emitted.run_bindValues _, hlength.symm, .ok rfl⟩
  · exact throw _

theorem mapM {k : α → CompileM γ} {k' : β → CompileM γ} {xs : List α} {ys : List β}
    (h : List.Forall₂ (fun x y => Agrees Eq (k x) (k' y)) xs ys) :
    Agrees Eq (xs.mapM k) (ys.mapM k') := by
  induction h with
  | nil => exact pure rfl
  | cons hxy _ ih =>
    rw [List.mapM_cons, List.mapM_cons]
    refine bind hxy fun a => ?_
    exact mapEq ih (a :: ·)

theorem mapM_map {ε : Type} {k : α → CompileM γ} {k' : β → CompileM γ} {f : ε → α} {g : ε → β}
    {xs : List ε} (h : ∀ x ∈ xs, Agrees Eq (k (f x)) (k' (g x))) :
    Agrees Eq ((xs.map f).mapM k) ((xs.map g).mapM k') := by
  refine mapM ?_
  rw [List.forall₂_map_left_iff, List.forall₂_map_right_iff, List.forall₂_same]
  exact h

end Agrees

/-! ## Conditions -/

section Conditions

variable {c : Compiler} (hr : c.registry = .standard) {Q : Type} {f g : Q → SubSelect}

include hr in
/-- A predicate has the same form with its values and without them. -/
theorem agrees_of_form {p : Predicate Q} {form : PredicateForm} (hp : p.form? = some form)
    {byOr negated : Bool} (h : Agrees Eq (c.writePredicate form negated (p.map f))
      (c.writePredicate form negated (p.map g).withoutValues)) :
    Agrees Eq (c.writeCondition ⟨byOr, negated, p.map f⟩)
      (c.writeCondition ⟨byOr, negated, (p.map g).withoutValues⟩) := by
  have hg : (p.map g).withoutValues.form? = some form := by cases p <;> exact hp
  rw [Compiler.writeCondition_map hr hp, Compiler.writeCondition_standard hr hg]
  exact h

-- only the first theorem of the block uses the registry
set_option linter.unusedSectionVars false

include hr

mutual

theorem Predicate.Meets.agrees (byOr negated : Bool) : ∀ {p : Predicate Q},
    (p.Meets .any fun q => Agrees Eq (f q).write (g q).write) →
    Agrees Eq (c.writeCondition ⟨byOr, negated, p.map f⟩)
      (c.writeCondition ⟨byOr, negated, (p.map g).withoutValues⟩)
  | .compare column operator value, _ =>
    agrees_of_form hr rfl ((Agrees.bindValue _ _).mapEq _)
  | .text column kind value true, _ | .text column kind value false, _ =>
    agrees_of_form hr rfl ((Agrees.bindValue _ _).mapEq _)
  | .compareColumns first operator second, _ => agrees_of_form hr rfl (Agrees.pure rfl)
  | .isNull column, _ => agrees_of_form hr rfl (Agrees.pure rfl)
  | .group items, h => agrees_of_form hr rfl ((Condition.MeetsAll.agrees h).mapEq _)
  | .raw fragment, _ => agrees_of_form hr rfl ((Agrees.fragment fragment).mapEq _)
  | .between column lower upper, _ => by
    refine agrees_of_form hr rfl (Agrees.bind (Agrees.bindValue _ _) fun low => ?_)
    exact (Agrees.bindValue _ _).mapEq _
  | .oneOf column values, _ => by
    refine agrees_of_form hr rfl ?_
    simp only [Predicate.map, Predicate.withoutValues, Compiler.writePredicate, List.isEmpty_map]
    split
    · exact Agrees.pure rfl
    · refine Agrees.mapEq (Agrees.mapM ?_) _
      rw [List.forall₂_map_right_iff, List.forall₂_same]
      exact fun v _ => Agrees.bindValue v _
  | .inQuery column q, h => by
    rw [Predicate.Meets] at h
    exact agrees_of_form hr rfl (h.mapEq _)
  | .existsQuery q, h => by
    rw [Predicate.Meets] at h
    exact agrees_of_form hr rfl (h.mapEq _)
  | .custom tag column values, _ => by
    rw [Predicate.map, Predicate.map, Predicate.withoutValues, Compiler.writeCondition_custom hr]
    exact Agrees.throw _

theorem Condition.MeetsAll.agrees : ∀ {items : List (Condition Q)},
    (Condition.MeetsAll .any (fun q => Agrees Eq (f q).write (g q).write) items) →
    Agrees Eq (c.writeTerms (Condition.mapList f items))
      (c.writeTerms (Condition.withoutValuesList (Condition.mapList g items)))
  | [], _ => Agrees.pure rfl
  | ⟨byOr, negated, p⟩ :: items, h => by
    simp only [Condition.MeetsAll] at h
    rw [Condition.mapList, Condition.mapList, Condition.withoutValuesList, Compiler.writeTerms,
      Compiler.writeTerms]
    refine Agrees.bind (Predicate.Meets.agrees byOr negated h.1) fun sql => ?_
    exact (Condition.MeetsAll.agrees h.2).mapEq _

end

end Conditions

/-! ## Sources, columns and the like -/

section Items

variable {c : Compiler} {Q : Type} {f g : Q → SubSelect}

theorem Condition.MeetsAll.agrees_conditions (hr : c.registry = .standard)
    {items : List (Condition Q)}
    (h : Condition.MeetsAll .any (fun q => Agrees Eq (f q).write (g q).write) items) :
    Agrees Eq (c.writeConditions (items.map (Condition.map f)))
      (c.writeConditions ((items.map (Condition.map g)).map Condition.withoutValues)) := by
  have hterms := Condition.MeetsAll.agrees hr h
  rw [Condition.withoutValuesList_eq_map, Condition.mapList_eq_map, Condition.mapList_eq_map]
    at hterms
  exact hterms.mapEq _

theorem Source.Meets.agrees {x : Source Q}
    (h : x.Meets .any fun q => Agrees Eq (f q).write (g q).write) :
    Agrees Eq (c.writeSource (x.map f)) (c.writeSource (x.map g).withoutValues) := by
  cases x with
  | table name alias? => exact Agrees.pure rfl
  | raw fragment => exact Agrees.fragment fragment
  | query q alias? => exact Agrees.mapEq h _

theorem Column.Meets.agrees {x : Column Q}
    (h : x.Meets .any fun q => Agrees Eq (f q).write (g q).write) :
    Agrees Eq (c.writeColumn (x.map f)) (c.writeColumn (x.map g).withoutValues) := by
  cases x with
  | name name => exact Agrees.pure rfl
  | raw fragment => exact Agrees.fragment fragment
  | query q label => exact Agrees.mapEq h _

theorem agrees_columns {xs : List (Column Q)}
    (h : ∀ x ∈ xs, x.Meets .any fun q => Agrees Eq (f q).write (g q).write) :
    Agrees Eq (c.writeColumns (xs.map (Column.map f)))
      (c.writeColumns ((xs.map (Column.map g)).map Column.withoutValues)) := by
  rw [List.map_map]
  exact (Agrees.mapM_map fun x hx => (h x hx).agrees).mapEq _

theorem Join.Meets.agrees (hr : c.registry = .standard) {x : Join Q}
    (h : x.Meets .any fun q => Agrees Eq (f q).write (g q).write) :
    Agrees Eq (c.writeJoin (x.map f)) (c.writeJoin (x.map g).withoutValues) := by
  refine Agrees.bind h.table.agrees fun table => ?_
  exact (h.on.agrees_conditions hr).mapEq _

theorem Combine.Meets.agrees (parenthesize : Bool) {x : Combine Q}
    (h : x.Meets .any fun q => Agrees Eq (f q).write (g q).write) :
    Agrees Eq (Compiler.writeCombine parenthesize (x.map f))
      (Compiler.writeCombine parenthesize (x.map g).withoutValues) := by
  cases x with
  | query operation all q => exact Agrees.mapEq h _
  | raw fragment => exact Agrees.fragment fragment

theorem agrees_order (x : Order) :
    Agrees Eq (c.writeOrder x) (c.writeOrder x.withoutValues) := by
  cases x with
  | column column direction => exact Agrees.pure rfl
  | raw fragment => exact Agrees.fragment fragment
  | random seed? => exact Agrees.pure rfl

/-- A number is written as a mark, whatever it is. -/
theorem agrees_number (keyword : String) {n? n?' : Option UInt32} (h : n?.isSome = n?'.isSome) :
    Agrees Eq (Compiler.writeNumber keyword n?) (Compiler.writeNumber keyword n?') := by
  cases n? <;> cases n?' <;> simp only [Option.isSome_none, Option.isSome_some] at h
  · exact Agrees.pure rfl
  · cases h
  · cases h
  · exact (Agrees.bindValue _ _).mapEq _

end Items

/-! ## Components -/

section Components

variable {c : Compiler} {Q : Type} {f g : Q → SubSelect}

section Payloads

variable {p? : Clause Q → Option α} {p?' : Clause SubSelect → Option β} {m m' : α → β} {e : β → β}
  {T : γ → δ → Prop} (hf : ∀ x, p?' (Clause.map f x) = (p? x).map m)
  (hg : ∀ x, p?' (Clause.map g x) = (p? x).map m')
  (he : ∀ x : Clause SubSelect, p?' x.withoutValues = (p?' x).map e) (s : Store Q)
  (component : Component)
include hf hg he

/-- The same clauses are refused, and the payloads differ in their values only. -/
theorem agrees_payloads {k : List β → CompileM γ} {k' : List β → CompileM δ}
    (h : Agrees T (k ((s.get p? component).map m)) (k' (((s.get p? component).map m').map e))) :
    Agrees T (Compiler.payloads (s.map f) p?' component >>= k)
      (Compiler.payloads ((s.map g).mapClauses Clause.withoutValues) p?' component >>= k') := by
  have hstrict : (s.map f).getStrict p?' component = _ :=
    Store.getStrict_mapClauses (Clause.transparent_map f).kind_eq hf s component
  have hstrict' : (s.map g).getStrict p?' component = _ :=
    Store.getStrict_mapClauses (Clause.transparent_map g).kind_eq hg s component
  rw [Compiler.payloads, Compiler.payloads, hstrict,
    Store.getStrict_mapClauses Clause.transparent_withoutValues.kind_eq he, hstrict']
  cases hs : s.getStrict p? component with
  | error e => exact Agrees.throw e
  | ok l =>
    rw [← Store.get_of_getStrict hs] at h
    exact h

theorem agrees_firstPayload {k : Option β → CompileM γ} {k' : Option β → CompileM δ}
    (h : Agrees T (k ((s.get p? component).head?.map m))
      (k' (((s.get p? component).head?.map m').map e))) :
    Agrees T (Compiler.firstPayload? (s.map f) p?' component >>= k)
      (Compiler.firstPayload? ((s.map g).mapClauses Clause.withoutValues) p?' component >>= k')
    := by
  rw [Compiler.firstPayload?, Compiler.firstPayload?, bind_assoc, bind_assoc]
  refine agrees_payloads hf hg he s component ?_
  simp only [pure_bind, List.head?_map]
  exact h

end Payloads

theorem agrees_aggregate (s : Store Q) (isDistinct : Bool) :
    Agrees Eq (c.writeAggregate (s.map f) isDistinct)
      (c.writeAggregate ((s.map g).mapClauses Clause.withoutValues) isDistinct) := by
  refine agrees_firstPayload (Clause.aggregate_map f) (Clause.aggregate_map g)
    Clause.aggregate_withoutValues s .aggregate ?_
  cases (s.get Clause.aggregate? .aggregate).head? <;> exact Agrees.pure rfl

theorem agrees_limit (s : Store Q) :
    Agrees Eq (Compiler.writeLimit (s.map f))
      (Compiler.writeLimit ((s.map g).mapClauses Clause.withoutValues)) := by
  refine agrees_firstPayload (Clause.limit_map f) (Clause.limit_map g)
    Clause.limit_withoutValues s .limit ?_
  refine agrees_number _ ?_
  cases (s.get Clause.limit? .limit).head? with
  | none => rfl
  | some l => exact l.effective_withoutValues.symm

theorem agrees_offset (s : Store Q) :
    Agrees Eq (Compiler.writeOffset (s.map f))
      (Compiler.writeOffset ((s.map g).mapClauses Clause.withoutValues)) := by
  refine agrees_firstPayload (Clause.limit_map f) (Clause.limit_map g)
    Clause.limit_withoutValues s .limit ?_
  refine agrees_number _ ?_
  cases (s.get Clause.limit? .limit).head? with
  | none => rfl
  | some l => exact Option.isSome_map.symm

theorem agrees_lock (s : Store Q) :
    Agrees Eq (c.writeLock (s.map f))
      (c.writeLock ((s.map g).mapClauses Clause.withoutValues)) := by
  refine agrees_firstPayload (Clause.lock_map f) (Clause.lock_map g)
    Clause.lock_withoutValues s .lock ?_
  cases (s.get Clause.lock? .lock).head? <;> exact Agrees.pure rfl

theorem agrees_orders (s : Store Q) :
    Agrees Eq (c.writeOrders (s.map f))
      (c.writeOrders ((s.map g).mapClauses Clause.withoutValues)) := by
  refine agrees_payloads (Clause.order_map f) (Clause.order_map g)
    Clause.order_withoutValues s .order ?_
  simp only [List.isEmpty_map]
  split
  · exact Agrees.pure rfl
  · rw [List.map_map]
    exact (Agrees.mapM_map fun x _ => agrees_order x).mapEq _

variable {s : Store Q} (hs : s.Meets .any fun q => Agrees Eq (f q).write (g q).write)
include hs

theorem agrees_projection (isDistinct : Bool) :
    Agrees Eq (c.writeProjection (s.map f) isDistinct)
      (c.writeProjection ((s.map g).mapClauses Clause.withoutValues) isDistinct) := by
  have hcolumns := agrees_columns (c := c) (hs.get (fun _ _ => Clause.Meets.column) .select)
  rw [Compiler.writeProjection, Compiler.writeProjection, Store.has_mapClauses, Store.has_map,
    Store.has_map]
  split
  · exact Agrees.pure rfl
  · refine agrees_payloads (Clause.column_map f) (Clause.column_map g)
      Clause.column_withoutValues s .select ?_
    simp only [List.isEmpty_map]
    split
    · exact Agrees.mapEq (Agrees.pure rfl) _
    · exact hcolumns.mapEq _

theorem agrees_from :
    Agrees Eq (c.writeFrom (s.map f))
      (c.writeFrom ((s.map g).mapClauses Clause.withoutValues)) := by
  have hsources := hs.get (fun _ _ => Clause.Meets.source) .from
  refine agrees_firstPayload (Clause.source_map f) (Clause.source_map g)
    Clause.source_withoutValues s .from ?_
  cases h : (s.get Clause.source? .from).head? with
  | none => exact Agrees.pure rfl
  | some source => exact Agrees.mapEq (hsources source (List.mem_of_head? h)).agrees _

theorem agrees_groups :
    Agrees Eq (c.writeGroups (s.map f))
      (c.writeGroups ((s.map g).mapClauses Clause.withoutValues)) := by
  have hcolumns := agrees_columns (c := c) (hs.get (fun _ _ => Clause.Meets.column) .group)
  refine agrees_payloads (Clause.column_map f) (Clause.column_map g)
    Clause.column_withoutValues s .group ?_
  simp only [List.isEmpty_map]
  split
  · exact Agrees.pure rfl
  · exact hcolumns.mapEq _

theorem agrees_combines (parenthesize : Bool) :
    Agrees Eq (Compiler.writeCombines (s.map f) parenthesize)
      (Compiler.writeCombines ((s.map g).mapClauses Clause.withoutValues) parenthesize) := by
  have hcombines := hs.get (fun _ _ => Clause.Meets.combine) .union
  refine agrees_payloads (Clause.combine_map f) (Clause.combine_map g)
    Clause.combine_withoutValues s .union ?_
  rw [List.map_map]
  exact (Agrees.mapM_map fun x hx => (hcombines x hx).agrees parenthesize).mapEq _

theorem agrees_setOperations :
    Agrees Eq (c.writeSetOperations (s.map f))
      (c.writeSetOperations ((s.map g).mapClauses Clause.withoutValues)) := by
  unfold Compiler.writeSetOperations
  cases c.dialect.combines with
  | omitted => exact Agrees.pure rfl
  | bare => exact agrees_combines hs false
  | parenthesized => exact agrees_combines hs true

variable (hr : c.registry = .standard)
include hr

theorem agrees_joins :
    Agrees Eq (c.writeJoins (s.map f))
      (c.writeJoins ((s.map g).mapClauses Clause.withoutValues)) := by
  have hjoins := hs.get (fun _ _ => Clause.Meets.join) .join
  refine agrees_payloads (Clause.join_map f) (Clause.join_map g)
    Clause.join_withoutValues s .join ?_
  rw [List.map_map]
  exact (Agrees.mapM_map fun x hx => (hjoins x hx).agrees hr).mapEq _

theorem agrees_where :
    Agrees Eq (c.writeWhere (s.map f))
      (c.writeWhere ((s.map g).mapClauses Clause.withoutValues)) := by
  have hmeets := hs.get (fun _ _ => Clause.Meets.condition) .where
  rw [Compiler.writeWhere, Compiler.writeWhere]
  simp only [Store.has_mapClauses, Store.has_map]
  split
  · refine agrees_payloads (Clause.condition_map f) (Clause.condition_map g)
      Clause.condition_withoutValues s .where ?_
    have hall := (Condition.meetsAll_iff _ _ _).mpr hmeets
    exact (hall.agrees_conditions hr).mapEq _
  · exact Agrees.pure rfl

theorem agrees_havings :
    Agrees Eq (c.writeHavings (s.map f))
      (c.writeHavings ((s.map g).mapClauses Clause.withoutValues)) := by
  have hmeets := hs.get (fun _ _ => Clause.Meets.condition) .having
  refine agrees_payloads (Clause.condition_map f) (Clause.condition_map g)
    Clause.condition_withoutValues s .having ?_
  have hterms := ((Condition.meetsAll_iff _ _ _).mpr hmeets).agrees hr
  rw [Condition.withoutValuesList_eq_map, Condition.mapList_eq_map, Condition.mapList_eq_map]
    at hterms
  exact hterms.mapEq _

end Components

/-! ## Queries -/

section Queries

variable {c : Compiler} (hr : c.registry = .standard)
include hr

theorem agrees_select {Q : Type} {f g : Q → SubSelect} {s : Store Q}
    (hs : s.Meets .any fun q => Agrees Eq (f q).write (g q).write) (isDistinct : Bool) :
    Agrees Eq (c.writeSelect (s.map f) isDistinct)
      (c.writeSelect ((s.map g).mapClauses Clause.withoutValues) isDistinct) := by
  refine Agrees.mapEq (Agrees.mapM ?_) _
  exact .cons (agrees_aggregate s isDistinct) <| .cons (agrees_projection hs isDistinct) <|
    .cons (agrees_from hs) <| .cons (agrees_joins hs hr) <| .cons (agrees_where hs hr) <|
    .cons (agrees_groups hs) <| .cons (agrees_havings hs hr) <| .cons (agrees_orders s) <|
    .cons (agrees_limit s) <| .cons (agrees_offset s) <| .cons (agrees_setOperations hs) <|
    .cons (agrees_lock s) .nil

omit hr in
/-- Deep joins are expanded in the same way without the values. -/
theorem expand_withoutValues (q : Query) :
    c.expand q.withoutValues.clauses =
      ((c.expand q.clauses).mapClauses (Clause.map Query.withoutValues)).mapClauses
        Clause.withoutValues := by
  rw [Query.withoutValues_eq, Compiler.expand_mapClauses Clause.transparent_withoutValues,
    Compiler.expand_map]

theorem agrees_expanded {q : Query} (h : q.clauses.Meets .any fun q =>
      Agrees Eq (c.subselect q) (c.subselect q.withoutValues)) :
    Agrees Eq (c.select ⟨(c.expand q.clauses).store, q.isDistinct⟩)
      (c.select ⟨(c.expand q.withoutValues.clauses).store, q.withoutValues.isDistinct⟩) := by
  have hselect := agrees_select hr (h.expand trivial c) q.isDistinct
  have hstore : (c.expand q.withoutValues.clauses).store.map c.prepare =
      ((c.expand q.clauses).store.map fun q => c.prepare q.withoutValues).mapClauses
        Clause.withoutValues := by
    rw [expand_withoutValues]
    exact (Store.map_mapClauses_withoutValues _ _).trans
      (congrArg (Store.mapClauses _) (Store.map_map _ _ _))
  have hdistinct : q.withoutValues.isDistinct = q.isDistinct := by rw [Query.withoutValues_eq]
  rw [Compiler.select, Compiler.select, hstore, hdistinct]
  exact hselect

omit hr in
theorem failure_withoutValues (q : Query) :
    (c.expand q.withoutValues.clauses).failure? = (c.expand q.clauses).failure? := by
  rw [expand_withoutValues]
  rfl

theorem agrees_subselect (q : Query) :
    Agrees Eq (c.subselect q) (c.subselect q.withoutValues) := by
  induction q using Query.induction with
  | step q ih =>
    have hexpanded := agrees_expanded hr ih
    rw [Compiler.subselect_eq, Compiler.subselect_eq, failure_withoutValues]
    refine Agrees.bind (Agrees.record _ _) fun _ => ?_
    cases (c.expand q.clauses).failure? with
    | some e => exact Agrees.throw e
    | none => exact hexpanded

end Queries

/-- What a statement shows without its values: its text and their number. -/
def Statement.shape (r : Statement) : String × Nat :=
  (r.sql, r.bindings.size)

theorem finish_congr {d : Dialect} (hd : d ∈ Dialect.builtin) (text : String)
    (bindings bindings' : Array Value) : d.finish text bindings = d.finish text bindings' := by
  simp only [Dialect.builtin, List.mem_cons, List.not_mem_nil, or_false] at hd
  rcases hd with rfl | rfl | rfl | rfl <;> rfl

/-- Queries whose expansions fail alike or are written by agreeing actions have statements of the
same shape, or the same error. -/
theorem shape_compile_of_agrees {c : Compiler} (hd : c.dialect ∈ Dialect.builtin) {q q' : Query}
    (hfailure : (c.expand q'.clauses).failure? = (c.expand q.clauses).failure?)
    (hselect : Agrees Eq (c.select ⟨(c.expand q.clauses).store, q.isDistinct⟩)
      (c.select ⟨(c.expand q'.clauses).store, q'.isDistinct⟩)) :
    (c.compile q).outcome.map Statement.shape = (c.compile q').outcome.map Statement.shape := by
  rw [Compiler.outcome_compile, Compiler.outcome_compile, hfailure]
  cases (c.expand q.clauses).failure? with
  | some e => rfl
  | none =>
    obtain ⟨⟨outcome, vs, es⟩, ⟨outcome', vs', es'⟩, hrun, hrun', hlength, hout⟩ := hselect
    rw [hrun, hrun']
    cases hout with
    | error e => rfl
    | @ok text _ heq =>
      subst heq
      have hsize : ((#[] : Array Value) ++ vs).size = ((#[] : Array Value) ++ vs').size := by
        simpa using hlength
      simp only [Emitted.run, Except.map, Statement.shape]
      rw [hsize, finish_congr hd text]

/-- A query and the same query without its values compile to the same text or the same error. -/
theorem shape_compile_withoutValues {c : Compiler} (hd : c.dialect ∈ Dialect.builtin)
    (hr : c.registry = .standard) (q : Query) :
    (c.compile q).outcome.map Statement.shape =
      (c.compile q.withoutValues).outcome.map Statement.shape :=
  shape_compile_of_agrees hd (failure_withoutValues q)
    (agrees_expanded hr (Store.meets_any (agrees_subselect hr) q.clauses))

/-- Queries that are the same up to their values compile to the same text with as many values, or to
the same error. -/
theorem shape_compile_congr {c : Compiler} (hd : c.dialect ∈ Dialect.builtin)
    (hr : c.registry = .standard) {q q' : Query} (h : q.withoutValues = q'.withoutValues) :
    (c.compile q).outcome.map Statement.shape = (c.compile q').outcome.map Statement.shape := by
  rw [shape_compile_withoutValues hd hr q, h, ← shape_compile_withoutValues hd hr q']

theorem shape_compile_congr_sample :
    ∃ shape, (Compiler.compile { dialect := .postgres }
        (.sample (.text "' OR 1 = 1 --") .null)).outcome.map Statement.shape = .ok shape ∧
      (Compiler.compile { dialect := .postgres }
        (.sample .null (.bool true))).outcome.map Statement.shape = .ok shape := by
  refine ⟨_, rfl, ?_⟩
  have h : (Query.sample (.text "' OR 1 = 1 --") .null).withoutValues =
      (Query.sample .null (.bool true)).withoutValues := rfl
  exact (shape_compile_congr (c := { dialect := .postgres }) (by simp [Dialect.builtin]) rfl h).symm

end SqlSelect
