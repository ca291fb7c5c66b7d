import SqlSelect.Query.Store

/-!
# Queries

A query is a store of clauses, in which further queries are nested, and the request for distinct
rows. `Query.fold` is the one recursion over query trees: it replaces the nested queries of a store
by what has been made of them and then asks what to make of the store. Everything that descends into
nested queries is such a fold.
-/

namespace SqlSelect

/-- A query. -/
structure Query where
  clauses : Store Query
  isDistinct : Bool

namespace Query

/-- A query without clauses. -/
def empty : Query :=
  ⟨⟨[], 0⟩, false⟩

instance : Inhabited Query := ⟨empty⟩

variable {α : Type} (step : Store α → Bool → α)

mutual

/-- Folds a query tree from the innermost queries outwards. -/
def fold : Query → α
  | ⟨⟨entries, nextId⟩, isDistinct⟩ => step ⟨foldEntries entries, nextId⟩ isDistinct

def foldEntries : List (Entry Query) → List (Entry α)
  | [] => []
  | e :: es => foldEntry e :: foldEntries es

def foldEntry : Entry Query → Entry α
  | ⟨id, component, clause⟩ => ⟨id, component, foldClause clause⟩

def foldClause : Clause Query → Clause α
  | .from s => .from (foldSource s)
  | .join j => .join (foldJoin j)
  | .deepJoin d => .deepJoin d
  | .where c => .where (foldCondition c)
  | .group c => .group (foldColumn c)
  | .having c => .having (foldCondition c)
  | .order o => .order o
  | .limit l => .limit l
  | .select c => .select (foldColumn c)
  | .aggregate a => .aggregate a
  | .union c => .union (foldCombine c)
  | .lock l => .lock l

def foldSource : Source Query → Source α
  | .table name alias? => .table name alias?
  | .raw fragment => .raw fragment
  | .query q alias? => .query (fold q) alias?

def foldJoin : Join Query → Join α
  | ⟨kind, table, on⟩ => ⟨kind, foldSource table, foldConditions on⟩

def foldColumn : Column Query → Column α
  | .name name => .name name
  | .raw fragment => .raw fragment
  | .query q label => .query (fold q) label

def foldCombine : Combine Query → Combine α
  | .query operation all q => .query operation all (fold q)
  | .raw fragment => .raw fragment

def foldConditions : List (Condition Query) → List (Condition α)
  | [] => []
  | c :: cs => foldCondition c :: foldConditions cs

def foldCondition : Condition Query → Condition α
  | ⟨byOr, negated, predicate⟩ => ⟨byOr, negated, foldPredicate predicate⟩

def foldPredicate : Predicate Query → Predicate α
  | .compare column operator value => .compare column operator value
  | .text column kind value caseSensitive => .text column kind value caseSensitive
  | .compareColumns first operator second => .compareColumns first operator second
  | .group items => .group (foldConditions items)
  | .raw fragment => .raw fragment
  | .isNull column => .isNull column
  | .between column lower upper => .between column lower upper
  | .oneOf column values => .oneOf column values
  | .inQuery column q => .inQuery column (fold q)
  | .existsQuery q => .existsQuery (fold q)
  | .custom tag column values => .custom tag column values

end

theorem foldSource_eq_map (s : Source Query) : foldSource step s = s.map (fold step) := by
  cases s <;> rfl

theorem foldColumn_eq_map (c : Column Query) : foldColumn step c = c.map (fold step) := by
  cases c <;> rfl

theorem foldCombine_eq_map (c : Combine Query) : foldCombine step c = c.map (fold step) := by
  cases c <;> rfl

mutual

theorem foldPredicate_eq_map : ∀ p : Predicate Query, foldPredicate step p = p.map (fold step)
  | .group items => by
    simp only [foldPredicate, Predicate.map, foldConditions_eq_mapList items]
  | .compare .. | .text .. | .compareColumns .. | .raw .. | .isNull .. | .between .. | .oneOf ..
  | .inQuery .. | .existsQuery .. | .custom .. => rfl

theorem foldCondition_eq_map : ∀ c : Condition Query, foldCondition step c = c.map (fold step)
  | ⟨byOr, negated, p⟩ => by
    simp only [foldCondition, Condition.map, foldPredicate_eq_map p]

theorem foldConditions_eq_mapList :
    ∀ cs : List (Condition Query), foldConditions step cs = Condition.mapList (fold step) cs
  | [] => rfl
  | c :: cs => by
    simp only [foldConditions, Condition.mapList, foldCondition_eq_map c,
      foldConditions_eq_mapList cs]

end

theorem foldJoin_eq_map (j : Join Query) : foldJoin step j = j.map (fold step) := by
  obtain ⟨kind, table, on⟩ := j
  simp only [foldJoin, Join.map, foldSource_eq_map, foldConditions_eq_mapList,
    Condition.mapList_eq_map]

theorem foldClause_eq_map (c : Clause Query) : foldClause step c = c.map (fold step) := by
  cases c <;>
    simp only [foldClause, Clause.map, foldSource_eq_map, foldJoin_eq_map, foldCondition_eq_map,
      foldColumn_eq_map, foldCombine_eq_map]

theorem foldEntry_eq_map (e : Entry Query) : foldEntry step e = e.map (fold step) := by
  obtain ⟨id, component, clause⟩ := e
  simp only [foldEntry, Entry.map, foldClause_eq_map]

theorem foldEntries_eq_map (es : List (Entry Query)) :
    foldEntries step es = es.map (Entry.map (fold step)) := by
  induction es with
  | nil => rfl
  | cons e es ih => simp only [foldEntries, foldEntry_eq_map, ih, List.map_cons]

/-- The fold of a query asks `step` about its store with every nested query folded. -/
theorem fold_eq (q : Query) :
    fold step q = step (q.clauses.map (fold step)) q.isDistinct := by
  obtain ⟨⟨entries, nextId⟩, isDistinct⟩ := q
  simp only [fold, Store.map, foldEntries_eq_map]

end Query

/-- Queries are equal when their stores are, with the numbers and the order of the clauses. -/
def Query.beq : Query → Query → Bool :=
  Query.fold fun store isDistinct other =>
    store.beqBy (fun equals q => equals q) other.clauses && isDistinct == other.isDistinct

instance : BEq Query := ⟨Query.beq⟩

end SqlSelect
