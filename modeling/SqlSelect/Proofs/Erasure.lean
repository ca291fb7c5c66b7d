import SqlSelect.Proofs.Payload

/-!
# Queries without their values

`Query.withoutValues` forgets every value that is bound when a query is compiled, at any depth, and
keeps all else: how many values a list or a fragment has, whether a limit is zero, and whether there
is an offset. Two queries are the same up to their values when they agree after that.

Values are seen neither by expansion nor by the reading of clauses.
-/

namespace SqlSelect

variable {Q R : Type}

def Fragment.withoutValues (f : Fragment) : Fragment :=
  ⟨f.sql, f.bindings.map fun _ => .null⟩

/-- A limit of zero rows counts as none, so that it is zero must be kept. -/
def Limit.withoutValues (l : Limit) : Limit :=
  ⟨l.limit?.map fun n => if 0 < n then 1 else 0, l.offset?.map fun _ => 0⟩

theorem Limit.effective_withoutValues (l : Limit) :
    l.withoutValues.effective?.isSome = l.effective?.isSome := by
  obtain ⟨limit?, offset?⟩ := l
  cases limit? with
  | none => rfl
  | some n => by_cases h : 0 < n <;> simp [Limit.withoutValues, Limit.effective?, h]

def Source.withoutValues : Source Q → Source Q
  | .raw fragment => .raw fragment.withoutValues
  | s => s

def Column.withoutValues : Column Q → Column Q
  | .raw fragment => .raw fragment.withoutValues
  | c => c

def Combine.withoutValues : Combine Q → Combine Q
  | .raw fragment => .raw fragment.withoutValues
  | c => c

def Order.withoutValues : Order → Order
  | .raw fragment => .raw fragment.withoutValues
  | o => o

mutual

def Predicate.withoutValues : Predicate Q → Predicate Q
  | .compare column operator _ => .compare column operator .null
  | .text column kind _ caseSensitive => .text column kind "" caseSensitive
  | .compareColumns first operator second => .compareColumns first operator second
  | .group items => .group (Condition.withoutValuesList items)
  | .raw fragment => .raw fragment.withoutValues
  | .isNull column => .isNull column
  | .between column _ _ => .between column .null .null
  | .oneOf column values => .oneOf column (values.map fun _ => .null)
  | .inQuery column q => .inQuery column q
  | .existsQuery q => .existsQuery q
  | .custom tag column values => .custom tag column values

def Condition.withoutValues : Condition Q → Condition Q
  | ⟨byOr, negated, p⟩ => ⟨byOr, negated, p.withoutValues⟩

def Condition.withoutValuesList : List (Condition Q) → List (Condition Q)
  | [] => []
  | c :: cs => c.withoutValues :: Condition.withoutValuesList cs

end

theorem Condition.withoutValuesList_eq_map (cs : List (Condition Q)) :
    Condition.withoutValuesList cs = cs.map Condition.withoutValues := by
  induction cs with
  | nil => rfl
  | cons c cs ih => simp [Condition.withoutValuesList, ih]

def Join.withoutValues (j : Join Q) : Join Q :=
  ⟨j.kind, j.table.withoutValues, j.on.map Condition.withoutValues⟩

def Clause.withoutValues : Clause Q → Clause Q
  | .from s => .from s.withoutValues
  | .join j => .join j.withoutValues
  | .deepJoin d => .deepJoin d
  | .where c => .where c.withoutValues
  | .group c => .group c.withoutValues
  | .having c => .having c.withoutValues
  | .order o => .order o.withoutValues
  | .limit l => .limit l.withoutValues
  | .select c => .select c.withoutValues
  | .aggregate a => .aggregate a
  | .union c => .union c.withoutValues
  | .lock l => .lock l

/-- The query tree without the values it binds. -/
def Query.withoutValues : Query → Query :=
  Query.fold fun s isDistinct => ⟨s.mapClauses Clause.withoutValues, isDistinct⟩

/-! ## Forgetting values and replacing nested queries -/

section Map

variable (f : Q → R)

theorem Source.withoutValues_map (s : Source Q) :
    s.withoutValues.map f = (s.map f).withoutValues := by
  cases s <;> rfl

theorem Column.withoutValues_map (c : Column Q) :
    c.withoutValues.map f = (c.map f).withoutValues := by
  cases c <;> rfl

theorem Combine.withoutValues_map (c : Combine Q) :
    c.withoutValues.map f = (c.map f).withoutValues := by
  cases c <;> rfl

mutual

theorem Predicate.withoutValues_map : ∀ p : Predicate Q,
    p.withoutValues.map f = (p.map f).withoutValues
  | .group items => by
    simp only [Predicate.withoutValues, Predicate.map, Condition.withoutValuesList_map items]
  | .compare .. | .text .. | .compareColumns .. | .raw .. | .isNull .. | .between .. | .oneOf ..
  | .inQuery .. | .existsQuery .. | .custom .. => by
    simp only [Predicate.withoutValues, Predicate.map]

theorem Condition.withoutValues_map : ∀ c : Condition Q,
    c.withoutValues.map f = (c.map f).withoutValues
  | ⟨byOr, negated, p⟩ => by
    simp only [Condition.withoutValues, Condition.map, Predicate.withoutValues_map p]

theorem Condition.withoutValuesList_map : ∀ cs : List (Condition Q),
    Condition.mapList f (Condition.withoutValuesList cs) =
      Condition.withoutValuesList (Condition.mapList f cs)
  | [] => rfl
  | c :: cs => by
    simp only [Condition.withoutValuesList, Condition.mapList, Condition.withoutValues_map c,
      Condition.withoutValuesList_map cs]

end

theorem Join.withoutValues_map (j : Join Q) :
    j.withoutValues.map f = (j.map f).withoutValues := by
  simp only [Join.withoutValues, Join.map, Source.withoutValues_map, List.map_map]
  congr 2
  funext c
  exact Condition.withoutValues_map f c

theorem Clause.withoutValues_map (c : Clause Q) :
    c.withoutValues.map f = (c.map f).withoutValues := by
  cases c <;>
    simp only [Clause.withoutValues, Clause.map, Source.withoutValues_map, Join.withoutValues_map,
      Condition.withoutValues_map, Column.withoutValues_map, Combine.withoutValues_map]

end Map

/-- Expansion does not see values. -/
theorem Clause.transparent_withoutValues :
    Clause.Transparent (Clause.withoutValues : Clause Q → Clause Q) where
  kind_eq c := by cases c <;> rfl
  deepJoin_eq c := by cases c <;> rfl
  name_eq c := by
    cases c with
    | «from» s => cases s <;> rfl
    | _ => rfl
  join_eq kind link := by
    simp [Clause.withoutValues, Link.toJoin, Join.onColumns, Join.withoutValues,
      Source.withoutValues, Condition.compareColumns, Condition.ofPredicate,
      Condition.withoutValues, Predicate.withoutValues]

/-- Nested queries are replaced and values forgotten in either order. -/
theorem Store.map_mapClauses_withoutValues (f : Q → R) (s : Store Q) :
    (s.mapClauses Clause.withoutValues).map f = (s.map f).mapClauses Clause.withoutValues := by
  simp only [Store.mapClauses, Store.map, List.map_map]
  congr 2
  funext e
  simp only [Function.comp_apply, Entry.map, Clause.withoutValues_map]

theorem Query.withoutValues_eq (q : Query) :
    q.withoutValues =
      ⟨(q.clauses.map Query.withoutValues).mapClauses Clause.withoutValues, q.isDistinct⟩ :=
  Query.fold_eq _ q

/-! ## Payloads without values -/

section Payloads

variable (c : Clause Q)

theorem Clause.source_withoutValues :
    c.withoutValues.source? = c.source?.map Source.withoutValues := by
  cases c <;> rfl

theorem Clause.join_withoutValues : c.withoutValues.join? = c.join?.map Join.withoutValues := by
  cases c <;> rfl

theorem Clause.condition_withoutValues :
    c.withoutValues.condition? = c.condition?.map Condition.withoutValues := by
  cases c <;> rfl

theorem Clause.column_withoutValues :
    c.withoutValues.column? = c.column?.map Column.withoutValues := by
  cases c <;> rfl

theorem Clause.combine_withoutValues :
    c.withoutValues.combine? = c.combine?.map Combine.withoutValues := by
  cases c <;> rfl

theorem Clause.aggregate_withoutValues : c.withoutValues.aggregate? = c.aggregate?.map id := by
  cases c <;> rfl

theorem Clause.order_withoutValues : c.withoutValues.order? = c.order?.map Order.withoutValues := by
  cases c <;> rfl

theorem Clause.limit_withoutValues : c.withoutValues.limit? = c.limit?.map Limit.withoutValues := by
  cases c <;> rfl

theorem Clause.lock_withoutValues : c.withoutValues.lock? = c.lock?.map id := by
  cases c <;> rfl

end Payloads

end SqlSelect
