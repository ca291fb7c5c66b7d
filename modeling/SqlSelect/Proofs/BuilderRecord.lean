import SqlSelect.Proofs.BuilderErrors

/-!
# A query as a record

Beside the store stands a plain record with a field for everything that can be asked of a query.
Each call has a record of its own, with what it asks for and nothing else, and a run of calls merges
these in order: of a field that holds one thing the later call wins, of a field that holds many the
later call comes after. The store of a query built by calls holds, component by component, the
clauses of this record; the numbers of the clauses are left out here.
-/

namespace SqlSelect

/-- What has been asked of a query. -/
structure Record where
  source? : Option (Source Query) := none
  columns : List (Column Query) := []
  isDistinct : Bool := false
  aggregate? : Option Aggregate := none
  joins : List (Join Query) := []
  deepJoins : List DeepJoin := []
  wheres : List (Condition Query) := []
  groups : List (Column Query) := []
  havings : List (Condition Query) := []
  orders : List Order := []
  limit? : Option UInt32 := none
  offset? : Option UInt32 := none
  combines : List (Combine Query) := []
  lock? : Option Lock := none

/-- What a call asks for. -/
def Query.Call.record : Query.Call → Record
  | fromSource source => { source? := some source }
  | fromTable table => { source? := some (.table table none) }
  | fromTableAs table label => { source? := some (.table table (some label)) }
  | fromRaw fragment => { source? := some (.raw fragment) }
  | fromQuery nested label => { source? := some (.query nested (some label)) }
  | select columns => { columns := columns.map .name }
  | selectRaw fragment => { columns := [.raw fragment] }
  | selectQuery nested label => { columns := [.query nested label] }
  | distinct => { isDistinct := true }
  | aggregate function columns => { aggregate? := some ⟨function, columns, none⟩ }
  | count => { aggregate? := some ⟨.count, [], none⟩ }
  | joinWith j => { joins := [j] }
  | join table first second => { joins := [.onColumns .inner table first second] }
  | leftJoin table first second => { joins := [.onColumns .left table first second] }
  | rightJoin table first second => { joins := [.onColumns .right table first second] }
  | crossJoin table => { joins := [⟨.cross, .table table none, []⟩] }
  | deepJoinWith d => { deepJoins := [d] }
  | deepJoin path => { deepJoins := [{ expression := path }] }
  | whereCondition condition => { wheres := [condition] }
  | filter column operator value => { wheres := [⟨false, false, .compare column operator value⟩] }
  | orFilter column operator value => { wheres := [⟨true, false, .compare column operator value⟩] }
  | groupBy columns => { groups := columns.map .name }
  | groupByRaw fragment => { groups := [.raw fragment] }
  | havingCondition condition => { havings := [condition] }
  | having column operator value => { havings := [⟨false, false, .compare column operator value⟩] }
  | orHaving column operator value => { havings := [⟨true, false, .compare column operator value⟩] }
  | orderBy column => { orders := [.column column .ascending] }
  | orderByDescending column => { orders := [.column column .descending] }
  | orderByRaw fragment => { orders := [.raw fragment] }
  | orderByRandom seed? => { orders := [.random seed?] }
  | limit n => { limit? := some n }
  | offset n => { offset? := some n }
  | combine operation all other => { combines := [.query operation all other] }
  | union other => { combines := [.query .union false other] }
  | unionAll other => { combines := [.query .union true other] }
  | combineRaw fragment => { combines := [.raw fragment] }
  | lock strength nowait => { lock? := some ⟨strength, nowait⟩ }

namespace Record

/-- What is asked for later comes after, or in place of, what was asked for before. -/
def merge (r later : Record) : Record where
  source? := later.source?.or r.source?
  columns := r.columns ++ later.columns
  isDistinct := r.isDistinct || later.isDistinct
  aggregate? := later.aggregate?.or r.aggregate?
  joins := r.joins ++ later.joins
  deepJoins := r.deepJoins ++ later.deepJoins
  wheres := r.wheres ++ later.wheres
  groups := r.groups ++ later.groups
  havings := r.havings ++ later.havings
  orders := r.orders ++ later.orders
  limit? := later.limit?.or r.limit?
  offset? := later.offset?.or r.offset?
  combines := r.combines ++ later.combines
  lock? := later.lock?.or r.lock?

/-- What a run of calls asks for. -/
def ofCalls (calls : List Query.Call) : Record :=
  calls.foldl (fun r call => r.merge call.record) {}

/-- The clauses of the record under a component. Limit and offset share one clause. -/
def clauses (r : Record) : Component → List (Clause Query)
  | .from => r.source?.toList.map .from
  | .join => r.joins.map .join
  | .deepJoin => r.deepJoins.map .deepJoin
  | .where => r.wheres.map .where
  | .group => r.groups.map .group
  | .having => r.havings.map .having
  | .order => r.orders.map .order
  | .limit =>
    if r.limit? = none ∧ r.offset? = none then [] else [.limit ⟨r.limit?, r.offset?⟩]
  | .select => r.columns.map .select
  | .aggregate => r.aggregate?.toList.map .aggregate
  | .union => r.combines.map .union
  | .lock => r.lock?.toList.map .lock

/-- Reading the limit back gives both numbers, also where there is no clause. -/
theorem findSome?_limit (r : Record) :
    ((r.clauses .limit).findSome? Clause.limit?).getD {} = ⟨r.limit?, r.offset?⟩ := by
  rw [clauses]
  split
  · rename_i h
    rw [h.1, h.2]
    rfl
  · rfl

theorem clauses_merge_of_nil (r : Record) {later : Record} {component : Component}
    (h : later.clauses component = []) :
    (r.merge later).clauses component = r.clauses component := by
  cases component <;> simp_all [clauses, merge]

theorem clauses_merge_of_plural (r later : Record) {component : Component}
    (h : component.isSingle = false) :
    (r.merge later).clauses component = r.clauses component ++ later.clauses component := by
  cases component <;> simp_all [clauses, merge, Component.isSingle]

theorem toList_or {α : Type} {x? : Option α} (h : x?.toList ≠ []) (y? : Option α) :
    (x?.or y?).toList = x?.toList := by
  cases x? with
  | none => exact absurd rfl h
  | some x => rfl

theorem clauses_merge_of_single (r : Record) {later : Record} {component : Component}
    (h : later.clauses component ≠ []) (hcomponent : component ∈ [.from, .aggregate, .lock]) :
    (r.merge later).clauses component = later.clauses component := by
  simp only [List.mem_cons, List.not_mem_nil, or_false] at hcomponent
  rcases hcomponent with rfl | rfl | rfl
  all_goals
    simp only [clauses, ne_eq, List.map_eq_nil_iff] at h
    simp only [clauses, merge, toList_or h]

end Record

/-! ## Calls -/

namespace Query

/-- What an effect has to do with the record of its call. -/
def Effect.Asks (r : Record) : Effect → Prop
  | .append component clauses =>
    ∀ other, r.clauses other = if component = other then clauses else []
  | .assign clause =>
    clause.kind ∈ [.from, .aggregate, .lock] ∧
      ∀ other, r.clauses other = if clause.kind = other then [clause] else []
  | .relimit change =>
    (∀ l, change l = ⟨r.limit?.or l.limit?, r.offset?.or l.offset?⟩) ∧
      (r.limit? = none → r.offset? ≠ none) ∧ ∀ other, other ≠ .limit → r.clauses other = []
  | .distinct => ∀ other, r.clauses other = []

theorem Call.asks_record (call : Call) : call.effect.Asks call.record := by
  cases call with
  | limit n | offset n =>
    refine ⟨fun l => rfl, by simp [record], ?_⟩
    intro other hother
    cases other with
    | limit => exact absurd rfl hother
    | _ => rfl
  | fromSource _ | fromTable _ | fromTableAs _ _ | fromRaw _ | fromQuery _ _ | aggregate _ _ | count
  | lock _ _ =>
    refine ⟨by simp [Clause.kind], ?_⟩
    intro other
    cases other <;> rfl
  | select columns | groupBy columns =>
    intro other
    cases other <;> simp [record, Record.clauses]
  | _ =>
    intro other
    cases other <;> rfl

/-- The record after a call has the clauses that the effect of the call makes. -/
theorem Effect.clauses_merge {effect : Effect} {later : Record} (hasks : effect.Asks later)
    (hplural : effect.Plural) (r : Record) (component : Component) :
    (r.merge later).clauses component =
      if effect.component? = some component then effect.update (r.clauses component)
      else r.clauses component := by
  split
  · rename_i hown
    cases effect with
    | append own clauses =>
      cases hown
      rw [r.clauses_merge_of_plural later hplural.1, hasks component, if_pos rfl]
      rfl
    | assign clause =>
      cases hown
      have hclause : later.clauses clause.kind = [clause] := by rw [hasks.2, if_pos rfl]
      rw [r.clauses_merge_of_single (hclause ▸ List.cons_ne_nil _ _) hasks.1, hclause]
      rfl
    | relimit change =>
      cases hown
      rw [update, r.findSome?_limit, hasks.1, Record.clauses, if_neg]
      · rfl
      · rintro ⟨hlimit, hoffset⟩
        rw [Record.merge, Option.or_eq_none_iff] at hlimit hoffset
        exact hasks.2.1 hlimit.1 hoffset.1
    | distinct => cases hown
  · rename_i hother
    refine r.clauses_merge_of_nil ?_
    cases effect with
    | append own clauses => rw [hasks, if_neg (fun h => hother (congrArg some h))]
    | assign clause => rw [hasks.2, if_neg (fun h => hother (congrArg some h))]
    | relimit change => exact hasks.2.2 component (fun h => hother (congrArg some h.symm))
    | distinct => exact hasks component

theorem Call.isDistinct_record (call : Call) :
    call.record.isDistinct = call.component?.isNone := by
  cases call <;> rfl

/-- The query holds what the record says. -/
structure Holds (q : Query) (r : Record) : Prop where
  clauses : ∀ component, q.clauses.clauses component = r.clauses component
  isDistinct : q.isDistinct = r.isDistinct

namespace Holds

variable {q : Query} {r : Record}

theorem empty : Query.empty.Holds {} where
  clauses := by intro component; cases component <;> rfl
  isDistinct := rfl

theorem run (h : q.Holds r) (call : Call) : (call.run q).Holds (r.merge call.record) := by
  rw [Call.run_eq]
  constructor
  · intro component
    rw [Effect.clauses_run, Effect.clauses_merge call.asks_record call.plural_effect,
      h.clauses component]
  · rw [Effect.isDistinct_run, h.isDistinct, Bool.or_comm, Record.merge, Call.isDistinct_record]
    rfl

theorem perform (h : q.Holds r) (calls : List Call) :
    (q.perform calls).Holds (calls.foldl (fun r call => r.merge call.record) r) := by
  induction calls generalizing q r with
  | nil => exact h
  | cons call calls ih => exact ih (h.run call)

end Holds

end Query

/-! ## The record of a run -/

/-- Of what is single the record holds the last that was asked for, of what is not it holds all, in
the order of the calls. -/
structure Record.Summarizes (r : Record) (calls : List Query.Call) : Prop where
  source : r.source? = (calls.filterMap (·.record.source?)).getLast?
  aggregate : r.aggregate? = (calls.filterMap (·.record.aggregate?)).getLast?
  lock : r.lock? = (calls.filterMap (·.record.lock?)).getLast?
  limit : r.limit? = (calls.filterMap (·.record.limit?)).getLast?
  offset : r.offset? = (calls.filterMap (·.record.offset?)).getLast?
  columns : r.columns = calls.flatMap (·.record.columns)
  joins : r.joins = calls.flatMap (·.record.joins)
  deepJoins : r.deepJoins = calls.flatMap (·.record.deepJoins)
  wheres : r.wheres = calls.flatMap (·.record.wheres)
  groups : r.groups = calls.flatMap (·.record.groups)
  havings : r.havings = calls.flatMap (·.record.havings)
  orders : r.orders = calls.flatMap (·.record.orders)
  combines : r.combines = calls.flatMap (·.record.combines)
  isDistinct : r.isDistinct = true ↔ .distinct ∈ calls

theorem getLast?_filterMap_concat {α β : Type} (f : α → Option β) (xs : List α) (x : α) :
    ((xs ++ [x]).filterMap f).getLast? = (f x).or (xs.filterMap f).getLast? := by
  rw [List.filterMap_append]
  cases h : f x <;> simp [h]

theorem Query.Call.eq_distinct_iff (call : Call) :
    call.record.isDistinct = true ↔ .distinct = call := by
  cases call <;> simp [record]

theorem Record.Summarizes.concat {r : Record} {calls : List Query.Call} (h : r.Summarizes calls)
    (call : Query.Call) : (r.merge call.record).Summarizes (calls ++ [call]) where
  source := by rw [getLast?_filterMap_concat, ← h.source]; rfl
  aggregate := by rw [getLast?_filterMap_concat, ← h.aggregate]; rfl
  lock := by rw [getLast?_filterMap_concat, ← h.lock]; rfl
  limit := by rw [getLast?_filterMap_concat, ← h.limit]; rfl
  offset := by rw [getLast?_filterMap_concat, ← h.offset]; rfl
  columns := by rw [List.flatMap_append, ← h.columns, List.flatMap_singleton]; rfl
  joins := by rw [List.flatMap_append, ← h.joins, List.flatMap_singleton]; rfl
  deepJoins := by rw [List.flatMap_append, ← h.deepJoins, List.flatMap_singleton]; rfl
  wheres := by rw [List.flatMap_append, ← h.wheres, List.flatMap_singleton]; rfl
  groups := by rw [List.flatMap_append, ← h.groups, List.flatMap_singleton]; rfl
  havings := by rw [List.flatMap_append, ← h.havings, List.flatMap_singleton]; rfl
  orders := by rw [List.flatMap_append, ← h.orders, List.flatMap_singleton]; rfl
  combines := by rw [List.flatMap_append, ← h.combines, List.flatMap_singleton]; rfl
  isDistinct := by
    rw [merge, Bool.or_eq_true, h.isDistinct, call.eq_distinct_iff, List.mem_append,
      List.mem_singleton]

theorem Record.summarizes_ofCalls (calls : List Query.Call) :
    (Record.ofCalls calls).Summarizes calls := by
  induction calls using List.reverseRecOn with
  | nil => constructor <;> simp [ofCalls]
  | append_singleton calls call ih =>
    rw [ofCalls, List.foldl_append]
    exact ih.concat call

/-- A query built by calls holds under every component just what the merged record of the calls
says, and no call changes a component that it does not name. -/
theorem perform_holds_record (calls : List Query.Call) :
    (Query.empty.perform calls).Holds (Record.ofCalls calls) ∧
    (Record.ofCalls calls).Summarizes calls ∧
    ∀ (call : Query.Call) (q : Query) (component : Component),
      call.component? ≠ some component →
        (call.run q).clauses.clauses component = q.clauses.clauses component := by
  refine ⟨Query.Holds.empty.perform calls, Record.summarizes_ofCalls calls, ?_⟩
  intro call q component hother
  rw [Query.Call.run_eq, Query.Effect.clauses_run]
  exact if_neg hother

/-- Two sources, and a limit that is set again after the offset. -/
theorem perform_holds_record_sample :
    let calls := [Query.Call.fromTable "a", .limit 10, .select ["x", "y"], .offset 20,
      .fromTable "b", .limit 5, .distinct]
    let q := Query.empty.perform calls
    q.Holds (Record.ofCalls calls) ∧ (Record.ofCalls calls).Summarizes calls ∧
      q.clauses.clauses .from = [.from (.table "b" none)] ∧
      q.clauses.clauses .limit = [.limit ⟨some 5, some 20⟩] ∧
      (Query.Call.limit 7).component? ≠ some .from ∧
      ((Query.Call.limit 7).run q).clauses.clauses .from = q.clauses.clauses .from := by
  intro calls q
  have hother : (Query.Call.limit 7).component? ≠ some .from := by decide
  obtain ⟨hholds, hsummary, hframe⟩ := perform_holds_record calls
  exact ⟨hholds, hsummary, hholds.clauses .from, hholds.clauses .limit, hother,
    hframe (.limit 7) q .from hother⟩

end SqlSelect
