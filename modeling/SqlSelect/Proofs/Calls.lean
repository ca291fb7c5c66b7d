import SqlSelect.Proofs.Reachability

/-!
# Builder calls

A query is built by one call after the other. A call has one of four effects: it appends clauses to
those of a component, puts a clause in the place of those of its component, changes the limit, or
asks for distinct rows. So what a call makes of the clauses of each component is said once for each
effect, and every call leaves the clauses of all components but one as they are.
-/

namespace SqlSelect

namespace Store

variable {Q : Type} (s : Store Q) (component other : Component) (clause : Clause Q)

theorem clauses_add :
    (s.add component clause).clauses other =
      if component = other then s.clauses other ++ [clause] else s.clauses other := by
  by_cases h : component = other <;> simp [clauses, entriesOf, add, h]

theorem clauses_replace :
    (s.replace component clause).clauses other =
      if component = other then [clause] else s.clauses other := by
  rw [replace, clauses_add]
  by_cases h : component = other
  · simp [clauses, entriesOf, h]
  · rw [if_neg h, if_neg h, clauses, entriesOf, List.filter_filter, clauses, entriesOf]
    congr 1
    apply List.filter_congr
    intro e _
    by_cases he : e.component = other
    · simp [he, Ne.symm h]
    · simp [he]

end Store

namespace Query

/-- One call of the builder. -/
inductive Call where
  | fromSource (source : Source Query)
  | fromTable (table : String)
  | fromTableAs (table label : String)
  | fromRaw (fragment : Fragment)
  | fromQuery (nested : Query) (label : String)
  | select (columns : List String)
  | selectRaw (fragment : Fragment)
  | selectQuery (nested : Query) (label : String)
  | distinct
  | aggregate (function : AggregateFunction) (columns : List String)
  | count
  | joinWith (j : Join Query)
  | join (table first second : String)
  | leftJoin (table first second : String)
  | rightJoin (table first second : String)
  | crossJoin (table : String)
  | deepJoinWith (d : DeepJoin)
  | deepJoin (path : String)
  | whereCondition (condition : Condition Query)
  | filter (column operator : String) (value : Value)
  | orFilter (column operator : String) (value : Value)
  | groupBy (columns : List String)
  | groupByRaw (fragment : Fragment)
  | havingCondition (condition : Condition Query)
  | having (column operator : String) (value : Value)
  | orHaving (column operator : String) (value : Value)
  | orderBy (column : String)
  | orderByDescending (column : String)
  | orderByRaw (fragment : Fragment)
  | orderByRandom (seed? : Option String)
  | limit (n : UInt32)
  | offset (n : UInt32)
  | combine (operation : SetOperation) (all : Bool) (other : Query)
  | union (other : Query)
  | unionAll (other : Query)
  | combineRaw (fragment : Fragment)
  | lock (strength : LockStrength) (nowait : Bool)

def Call.run (q : Query) : Call → Query
  | .fromSource source => q.fromSource source
  | .fromTable table => q.fromTable table
  | .fromTableAs table label => q.fromTableAs table label
  | .fromRaw fragment => q.fromRaw fragment
  | .fromQuery nested label => q.fromQuery nested label
  | .select columns => q.select columns
  | .selectRaw fragment => q.selectRaw fragment
  | .selectQuery nested label => q.selectQuery nested label
  | .distinct => q.distinct
  | .aggregate function columns => q.aggregate function columns
  | .count => q.count
  | .joinWith j => q.joinWith j
  | .join table first second => q.join table first second
  | .leftJoin table first second => q.leftJoin table first second
  | .rightJoin table first second => q.rightJoin table first second
  | .crossJoin table => q.crossJoin table
  | .deepJoinWith d => q.deepJoinWith d
  | .deepJoin path => q.deepJoin path
  | .whereCondition condition => q.whereCondition condition
  | .filter column operator value => q.filter column operator value
  | .orFilter column operator value => q.orFilter column operator value
  | .groupBy columns => q.groupBy columns
  | .groupByRaw fragment => q.groupByRaw fragment
  | .havingCondition condition => q.havingCondition condition
  | .having column operator value => q.having column operator value
  | .orHaving column operator value => q.orHaving column operator value
  | .orderBy column => q.orderBy column
  | .orderByDescending column => q.orderByDescending column
  | .orderByRaw fragment => q.orderByRaw fragment
  | .orderByRandom seed? => q.orderByRandom seed?
  | .limit n => q.limit n
  | .offset n => q.offset n
  | .combine operation all other => q.combine operation all other
  | .union other => q.union other
  | .unionAll other => q.unionAll other
  | .combineRaw fragment => q.combineRaw fragment
  | .lock strength nowait => q.lock strength nowait

/-- The query after a list of calls. -/
def perform (q : Query) (calls : List Call) : Query :=
  calls.foldl Call.run q

/-! ## Effects -/

/-- What a call does. -/
inductive Effect where
  | append (component : Component) (clauses : List (Clause Query))
  | assign (clause : Clause Query)
  | relimit (change : Limit → Limit)
  | distinct

namespace Effect

def run (q : Query) : Effect → Query
  | append component clauses =>
    clauses.foldl (fun q clause => { q with clauses := q.clauses.add component clause }) q
  | assign clause => q.set clause
  | relimit change => q.set (.limit (change q.currentLimit))
  | distinct => q.distinct

/-- The component whose clauses change, if there is one. -/
def component? : Effect → Option Component
  | append component _ => some component
  | assign clause => some clause.kind
  | relimit _ => some .limit
  | distinct => none

/-- The new clauses of the component that changes. -/
def update (clauses : List (Clause Query)) : Effect → List (Clause Query)
  | append _ more => clauses ++ more
  | assign clause => [clause]
  | relimit change => [.limit (change ((clauses.findSome? Clause.limit?).getD {}))]
  | distinct => clauses

theorem clauses_run (effect : Effect) (q : Query) (component : Component) :
    (effect.run q).clauses.clauses component =
      if effect.component? = some component then effect.update (q.clauses.clauses component)
      else q.clauses.clauses component := by
  cases effect with
  | append own clauses =>
    simp only [run, component?, update, Option.some.injEq]
    induction clauses generalizing q with
    | nil => simp
    | cons clause clauses ih =>
      rw [List.foldl_cons, ih, Store.clauses_add]
      split <;> simp
  | assign clause =>
    simp only [run, component?, update, Option.some.injEq]
    exact Store.clauses_replace q.clauses clause.kind component clause
  | relimit change =>
    simp only [run, component?, update, Option.some.injEq]
    rw [Query.set, Store.clauses_replace]
    refine if_ctx_congr Iff.rfl (fun h => ?_) fun _ => rfl
    cases h
    rfl
  | distinct => rfl

theorem isDistinct_run (effect : Effect) (q : Query) :
    (effect.run q).isDistinct = (effect.component?.isNone || q.isDistinct) := by
  cases effect with
  | append component clauses =>
    simp only [run]
    induction clauses generalizing q with
    | nil => rfl
    | cons clause clauses ih => exact ih _
  | _ => rfl

theorem reachable_run (effect : Effect) {q : Query} (h : q.clauses.Reachable) :
    (effect.run q).clauses.Reachable := by
  cases effect with
  | append component clauses =>
    simp only [run]
    induction clauses generalizing q with
    | nil => exact h
    | cons clause clauses ih => exact ih (.add component clause h)
  | assign clause => exact .replace _ _ h
  | relimit change => exact .replace _ _ h
  | distinct => exact h

end Effect

namespace Call

def effect : Call → Effect
  | fromSource source => .assign (.from source)
  | fromTable table => .assign (.from (.table table none))
  | fromTableAs table label => .assign (.from (.table table (some label)))
  | fromRaw fragment => .assign (.from (.raw fragment))
  | fromQuery nested label => .assign (.from (.query nested (some label)))
  | select columns => .append .select (columns.map fun column => .select (.name column))
  | selectRaw fragment => .append .select [.select (.raw fragment)]
  | selectQuery nested label => .append .select [.select (.query nested label)]
  | distinct => .distinct
  | aggregate function columns => .assign (.aggregate ⟨function, columns, none⟩)
  | count => .assign (.aggregate ⟨.count, [], none⟩)
  | joinWith j => .append .join [.join j]
  | join table first second => .append .join [.join (.onColumns .inner table first second)]
  | leftJoin table first second => .append .join [.join (.onColumns .left table first second)]
  | rightJoin table first second => .append .join [.join (.onColumns .right table first second)]
  | crossJoin table => .append .join [.join ⟨.cross, .table table none, []⟩]
  | deepJoinWith d => .append .deepJoin [.deepJoin d]
  | deepJoin path => .append .deepJoin [.deepJoin ⟨path, .inner, none, none, none, none⟩]
  | whereCondition condition => .append .where [.where condition]
  | filter column operator value => .append .where [.where (.compare column operator value)]
  | orFilter column operator value =>
    .append .where [.where (Condition.compare column operator value).or]
  | groupBy columns => .append .group (columns.map fun column => .group (.name column))
  | groupByRaw fragment => .append .group [.group (.raw fragment)]
  | havingCondition condition => .append .having [.having condition]
  | having column operator value => .append .having [.having (.compare column operator value)]
  | orHaving column operator value =>
    .append .having [.having (Condition.compare column operator value).or]
  | orderBy column => .append .order [.order (.column column .ascending)]
  | orderByDescending column => .append .order [.order (.column column .descending)]
  | orderByRaw fragment => .append .order [.order (.raw fragment)]
  | orderByRandom seed? => .append .order [.order (.random seed?)]
  | limit n => .relimit fun l => { l with limit? := some n }
  | offset n => .relimit fun l => { l with offset? := some n }
  | combine operation all other => .append .union [.union (.query operation all other)]
  | union other => .append .union [.union (.query .union false other)]
  | unionAll other => .append .union [.union (.query .union true other)]
  | combineRaw fragment => .append .union [.union (.raw fragment)]
  | lock strength nowait => .assign (.lock ⟨strength, nowait⟩)

/-- The component whose clauses a call changes, if there is one. -/
def component? (call : Call) : Option Component :=
  call.effect.component?

theorem run_eq (call : Call) (q : Query) : call.run q = call.effect.run q := by
  cases call with
  | select columns =>
    rw [effect, Effect.run, List.foldl_map]
    rfl
  | groupBy columns =>
    rw [effect, Effect.run, List.foldl_map]
    rfl
  | _ => rfl

end Call

theorem reachable_perform {q : Query} (h : q.clauses.Reachable) (calls : List Call) :
    (q.perform calls).clauses.Reachable := by
  induction calls generalizing q with
  | nil => exact h
  | cons call calls ih =>
    have hrun := call.effect.reachable_run h
    rw [← Call.run_eq] at hrun
    exact ih hrun

end Query

end SqlSelect
