import SqlSelect.Proofs.NestingDepth

/-!
# The writers with their calls left open

The writers of queries, sources, conditions and set operations call one another. The recursion is
written here with the calls left open: `Compiler.unroll` says what is written for a job when the
jobs that it hands on are written by a given function, and `Compiler.calls` lists these jobs. The
writers satisfy the equations.
-/

namespace SqlSelect

variable {α β : Type}

/-- What the writers are asked for. -/
inductive Job where
  | subselect (q : Query)
  | select (q : Query)
  | source (source : Source Query)
  | conditions (conditions : List (Condition Query))
  | condition (condition : Condition Query)
  | combines (q : Query) (parenthesize : Bool)

namespace Job

/-- The job is to write a part of a clause. -/
def IsPart : Job → Prop
  | .source _ | .conditions _ | .condition _ => True
  | .subselect _ | .select _ | .combines .. => False

/-- The queries nested in a job. -/
def queries : Job → List Query
  | .subselect q | .select q | .combines q _ => q.clauses.nested
  | .source x => x.queries
  | .conditions items => Condition.queriesAll items
  | .condition x => x.queries

/-- The tags of the conditions in a job, but not of those in nested queries. -/
def ownTags : Job → List String
  | .subselect q | .select q | .combines q _ => q.clauses.tags
  | .source _ => []
  | .conditions items => Condition.tagsAll items
  | .condition x => x.tags

def tags (job : Job) : List String :=
  job.ownTags ++ job.queries.flatMap Query.tags

variable {job job' : Job}

theorem tags_query (q : Query) : (Job.subselect q).tags = q.tags :=
  q.tags_eq.symm

theorem tag_mem_tags (x : Condition Query) : x.predicate.tag ∈ (Job.condition x).tags := by
  obtain ⟨_, _, p⟩ := x
  exact List.mem_append_left _ p.tag_mem_tags

theorem tags_subset_of_parts (hown : job'.ownTags ⊆ job.ownTags)
    (hqueries : job'.queries ⊆ job.queries) : job'.tags ⊆ job.tags := by
  intro tag htag
  rcases List.mem_append.mp htag with htag | htag
  · exact List.mem_append_left _ (hown htag)
  · obtain ⟨p, hp, htag⟩ := List.mem_flatMap.mp htag
    exact List.mem_append_right _ (List.mem_flatMap.mpr ⟨p, hqueries hp, htag⟩)

theorem tags_subselect_subset {p : Query} (hp : p ∈ job.queries) :
    (Job.subselect p).tags ⊆ job.tags := by
  intro tag htag
  rw [tags_query] at htag
  exact List.mem_append_right _ (List.mem_flatMap.mpr ⟨p, hp, htag⟩)

end Job

/-! ## Payloads -/

section Payloads

variable {Q : Type} {clause : Clause Q}

theorem Clause.queries_source_subset {x : Source Q} (h : clause.source? = some x) :
    x.queries ⊆ clause.queries := by
  cases clause <;> cases h
  exact List.Subset.refl _

theorem Clause.queries_table_subset {x : Join Q} (h : clause.join? = some x) :
    x.table.queries ⊆ clause.queries := by
  cases clause <;> cases h
  exact List.subset_append_left _ _

theorem Clause.queries_on_subset {x : Join Q} (h : clause.join? = some x) :
    Condition.queriesAll x.on ⊆ clause.queries := by
  cases clause <;> cases h
  rw [Condition.queriesAll_eq_flatMap]
  exact List.subset_append_right _ _

theorem Clause.queries_condition_subset {x : Condition Q} (h : clause.condition? = some x) :
    x.queries ⊆ clause.queries := by
  cases clause <;> cases h <;> exact List.Subset.refl _

theorem Clause.tags_on_subset {x : Join Q} (h : clause.join? = some x) :
    Condition.tagsAll x.on ⊆ clause.tags := by
  rw [Clause.tags_of_join h]
  exact List.Subset.refl _

theorem Clause.tags_condition_subset {x : Condition Q} (h : clause.condition? = some x) :
    x.tags ⊆ clause.tags := by
  rw [Clause.tags_of_condition h]
  exact List.Subset.refl _

/-- What is listed of a payload is listed of the store that it is read from. -/
theorem Store.subset_of_mem_get {s : Store Q} {p? : Clause Q → Option α} {f : α → List β}
    {g : Clause Q → List β} (hp : ∀ clause x, p? clause = some x → f x ⊆ g clause)
    {component : Component} {x : α} (hx : x ∈ s.get p? component) :
    f x ⊆ s.entries.flatMap fun e => g e.clause := by
  intro b hb
  obtain ⟨clause, hclause, hpayload⟩ := List.mem_filterMap.mp hx
  obtain ⟨e, he, rfl⟩ := List.mem_map.mp hclause
  exact List.mem_flatMap.mpr ⟨e, List.mem_of_mem_filter he, hp _ _ hpayload hb⟩

end Payloads

/-! ## One level of the recursion -/

namespace Compiler

section Unroll

variable (c : Compiler) (write : Job → CompileM String)

/-- A nested query is handed on where its action is run. -/
def handOn (q : Query) : SubSelect :=
  ⟨q, write (.subselect q)⟩

def unrollFrom (s : Store Query) : CompileM (Option String) := do
  let some source := (← CompileM.ofExcept (s.getStrict Clause.source? .from)).head? | return none
  return some ("FROM " ++ (← write (.source source)))

def unrollJoin (join : Join Query) : CompileM String := do
  let table ← write (.source join.table)
  let on ← write (.conditions join.on)
  return join.kind.keyword ++ " " ++ table ++ (if on.isEmpty then "" else " ON " ++ on)

def unrollJoins (s : Store Query) : CompileM (Option String) := do
  let joins ← CompileM.ofExcept (s.getStrict Clause.join? .join)
  return nonEmpty? (String.intercalate " " (← joins.mapM (unrollJoin write)))

def unrollWhere (s : Store Query) : CompileM (Option String) := do
  if s.has .from && s.has .where then
    let conditions ← CompileM.ofExcept (s.getStrict Clause.condition? .where)
    let sql ← write (.conditions conditions)
    return (nonEmpty? sql).map ("WHERE " ++ ·)
  else
    return none

def unrollTerms : List (Condition Query) → CompileM (List Term)
  | [] => pure []
  | condition :: rest => do
    let sql ← write (.condition condition)
    let terms ← unrollTerms rest
    return if sql.isEmpty then terms else ⟨condition.byOr, sql⟩ :: terms

def unrollHavings (s : Store Query) : CompileM (Option String) := do
  let conditions ← CompileM.ofExcept (s.getStrict Clause.condition? .having)
  let terms ← unrollTerms write conditions
  return nonEmpty? (Term.join (terms.map fun t => ⟨t.byOr, "HAVING " ++ t.sql⟩))

def unrollSetOperations (q : Query) : CompileM (Option String) := do
  match c.dialect.combines with
  | .omitted => return none
  | .bare => return nonEmpty? (← write (.combines q false))
  | .parenthesized => return nonEmpty? (← write (.combines q true))

/-- The components of a query; those that call no other writer than that of nested queries are
written as they are. -/
def unrollSelect (q : Query) : CompileM String := do
  let s := q.clauses.map (handOn write)
  return joinFragments (← [c.writeAggregate s q.isDistinct, c.writeProjection s q.isDistinct,
    unrollFrom write q.clauses, unrollJoins write q.clauses, unrollWhere write q.clauses,
    c.writeGroups s, unrollHavings write q.clauses, c.writeOrders s, writeLimit s, writeOffset s,
    c.unrollSetOperations write q, c.writeLock s].mapM id)

/-- The rule of the library for groups hands the conditions of a group on. Other handlers can have
the nested queries written. -/
def unrollCondition (condition : Condition Query) : CompileM String :=
  match condition.predicate, c.registry.find? condition.predicate.tag with
  | .group items, some (.standard .group) => do
    let inner ← write (.conditions items)
    return if inner.isEmpty then "" else notWord condition.negated ++ "(" ++ inner ++ ")"
  | _, _ => c.writeCondition (condition.map (handOn write))

/-- What is written for a job when `write` writes the jobs that it hands on. A nested query is
expanded, and the copy is handed on. -/
def unroll : Job → CompileM String
  | .subselect q => do
    CompileM.record (c.expand q.clauses).events
    match (c.expand q.clauses).failure? with
    | some e => throw e
    | none => write (.select ⟨(c.expand q.clauses).store, q.isDistinct⟩)
  | .select q => c.unrollSelect write q
  | .source source => c.writeSource (source.map (handOn write))
  | .conditions conditions => return Term.join (← unrollTerms write conditions)
  | .condition condition => c.unrollCondition write condition
  | .combines q parenthesize =>
    return (← writeCombines (q.clauses.map (handOn write)) parenthesize).getD ""

end Unroll

/-- The jobs that a job hands on are among these. -/
def calls (c : Compiler) : Job → List Job
  | .subselect q => [.select ⟨(c.expand q.clauses).store, q.isDistinct⟩]
  | .select q =>
    (q.clauses.get Clause.source? .from).map .source ++
      (q.clauses.get Clause.join? .join).map (fun join => .source join.table) ++
      (q.clauses.get Clause.join? .join).map (fun join => .conditions join.on) ++
      .conditions (q.clauses.get Clause.condition? .where) ::
      (q.clauses.get Clause.condition? .having).map .condition ++
      q.clauses.nested.map .subselect ++ [.combines q false, .combines q true]
  | .source source => source.queries.map .subselect
  | .conditions conditions => conditions.map .condition
  | .condition condition =>
    match condition.predicate, c.registry.find? condition.predicate.tag with
    | .group items, some (.standard .group) => [.conditions items]
    | _, _ => condition.queries.map .subselect
  | .combines q _ => q.clauses.nested.map .subselect

/-- What a query hands on: its set operations, its nested queries, and parts of its clauses. -/
theorem mem_calls_select {c : Compiler} {q : Query} {job : Job} (h : job ∈ c.calls (.select q)) :
    (∃ parenthesize, job = .combines q parenthesize) ∨
    (∃ p ∈ q.clauses.nested, job = .subselect p) ∨
    job.IsPart ∧ job.ownTags ⊆ q.clauses.tags ∧ job.queries ⊆ q.clauses.nested := by
  simp only [calls, List.mem_append, List.mem_cons, List.mem_map, List.not_mem_nil, or_false] at h
  -- The source, the tables and the conditions of joins, the restriction, the conditions on groups.
  rcases h with ((((⟨x, hx, rfl⟩ | ⟨x, hx, rfl⟩) | ⟨x, hx, rfl⟩) | rfl | ⟨x, hx, rfl⟩) |
    ⟨p, hp, rfl⟩) | rfl | rfl
  · have hnested := Store.subset_of_mem_get (fun _ _ => Clause.queries_source_subset) hx
    exact Or.inr (Or.inr ⟨trivial, List.nil_subset _, hnested⟩)
  · have hnested := Store.subset_of_mem_get (fun _ _ => Clause.queries_table_subset) hx
    exact Or.inr (Or.inr ⟨trivial, List.nil_subset _, hnested⟩)
  · have htags := Store.subset_of_mem_get (fun _ _ => Clause.tags_on_subset) hx
    have hnested := Store.subset_of_mem_get (fun _ _ => Clause.queries_on_subset) hx
    exact Or.inr (Or.inr ⟨trivial, htags, hnested⟩)
  · refine Or.inr (Or.inr ⟨trivial, fun tag htag => ?_, fun p hp => ?_⟩)
    · obtain ⟨x, hx, htag⟩ := Condition.mem_tagsAll.mp htag
      exact Store.subset_of_mem_get (fun _ _ => Clause.tags_condition_subset) hx htag
    · simp only [Job.queries, Condition.queriesAll_eq_flatMap, List.mem_flatMap] at hp
      obtain ⟨x, hx, hp⟩ := hp
      exact Store.subset_of_mem_get (fun _ _ => Clause.queries_condition_subset) hx hp
  · have htags := Store.subset_of_mem_get (fun _ _ => Clause.tags_condition_subset) hx
    have hnested := Store.subset_of_mem_get (fun _ _ => Clause.queries_condition_subset) hx
    exact Or.inr (Or.inr ⟨trivial, htags, hnested⟩)
  · exact Or.inr (Or.inl ⟨p, hp, rfl⟩)
  · exact Or.inl ⟨false, rfl⟩
  · exact Or.inl ⟨true, rfl⟩

/-- The two ways in which a condition is written: as a group by the rule of the library, or by a
handler that is given the condition as a whole. -/
theorem unrollCondition_cases (c : Compiler) (x : Condition Query) :
    (∃ items, x.predicate = .group items ∧
      c.registry.find? x.predicate.tag = some (.standard .group) ∧
      c.calls (.condition x) = [.conditions items] ∧
      ∀ write, c.unrollCondition write x = (do
        let inner ← write (.conditions items)
        return if inner.isEmpty then "" else notWord x.negated ++ "(" ++ inner ++ ")")) ∨
    (∀ items, x.predicate = .group items →
        c.registry.find? x.predicate.tag ≠ some (.standard .group)) ∧
      c.calls (.condition x) = x.queries.map .subselect ∧
      ∀ write, c.unrollCondition write x = c.writeCondition (x.map (handOn write)) := by
  simp only [unrollCondition, calls]
  split
  · rename_i items hp hfind
    exact Or.inl ⟨items, hp, hfind, rfl, fun _ => rfl⟩
  · rename_i hne
    exact Or.inr ⟨hne, rfl, fun _ => rfl⟩

theorem unrollCondition_of_none {c : Compiler} {x : Condition Query}
    (h : c.registry.find? x.predicate.tag = none) (write : Job → CompileM String) :
    c.unrollCondition write x = throw (.unresolvedHandler x.predicate.tag) := by
  obtain ⟨_, _, hfind, _⟩ | ⟨_, _, hwrite⟩ := c.unrollCondition_cases x
  · rw [h] at hfind
    cases hfind
  · rw [hwrite, writeCondition_eq, Condition.predicate_map, Predicate.tag_map, Registry.resolve, h]

theorem unrollCondition_of_custom {c : Compiler} {x : Condition Query}
    {handler : Dialect → Condition SubSelect → CompileM String}
    (h : c.registry.find? x.predicate.tag = some (.custom handler)) :
    c.calls (.condition x) = x.queries.map .subselect ∧
      ∀ write, c.unrollCondition write x = handler c.dialect (x.map (handOn write)) := by
  obtain ⟨_, _, hfind, _⟩ | ⟨_, hjobs, hwrite⟩ := c.unrollCondition_cases x
  · rw [h] at hfind
    cases hfind
  · refine ⟨hjobs, fun write => ?_⟩
    rw [hwrite, writeCondition_eq, Condition.predicate_map, Predicate.tag_map, Registry.resolve, h]

/-- The rules of the library: only the one for groups hands conditions on. -/
theorem unrollCondition_of_standard {c : Compiler} {x : Condition Query} {form : PredicateForm}
    (h : c.registry.find? x.predicate.tag = some (.standard form)) :
    (∃ items, x.predicate = .group items ∧ form = .group ∧
      c.calls (.condition x) = [.conditions items] ∧
      ∀ write, c.unrollCondition write x = (do
        let inner ← write (.conditions items)
        return if inner.isEmpty then "" else notWord x.negated ++ "(" ++ inner ++ ")")) ∨
    (x.predicate.form? = some form → form ≠ .group) ∧
      c.calls (.condition x) = x.queries.map .subselect ∧
      ∀ write, c.unrollCondition write x =
        c.writePredicate form x.negated (x.predicate.map (handOn write)) := by
  obtain ⟨items, hp, hfind, hjobs, hgroup⟩ | ⟨hother, hjobs, hwrite⟩ := c.unrollCondition_cases x
  · rw [h] at hfind
    cases hfind
    exact Or.inl ⟨items, hp, rfl, hjobs, hgroup⟩
  · refine Or.inr ⟨?_, hjobs, fun write => ?_⟩
    · rintro hform rfl
      obtain ⟨byOr, negated, p⟩ := x
      cases p <;> cases hform
      exact hother _ rfl h
    · rw [hwrite, writeCondition_eq, Condition.predicate_map, Predicate.tag_map,
        Registry.resolve_of_find h]
      obtain ⟨byOr, negated, p⟩ := x
      rfl

theorem tags_of_mem_calls_condition {c : Compiler} {x : Condition Query} {job : Job}
    (h : job ∈ c.calls (.condition x)) : job.tags ⊆ (Job.condition x).tags := by
  obtain ⟨items, hp, _, hjobs, _⟩ | ⟨_, hjobs, _⟩ := c.unrollCondition_cases x
  · rw [hjobs, List.mem_singleton] at h
    obtain ⟨byOr, negated, p⟩ := x
    obtain rfl : p = .group items := hp
    rw [h]
    refine Job.tags_subset_of_parts ?_ ?_
    · simp [Job.ownTags, Condition.tags, Predicate.tags]
    · simp [Job.queries, Condition.queries, Predicate.queries]
  · rw [hjobs] at h
    obtain ⟨p, hp, rfl⟩ := List.mem_map.mp h
    exact Job.tags_subselect_subset hp

/-- A job hands on no tags that it does not have. -/
theorem tags_of_mem_calls {c : Compiler} {job job' : Job} (h : job' ∈ c.calls job) :
    job'.tags ⊆ job.tags := by
  cases job with
  | subselect q =>
    rw [List.mem_singleton.mp h]
    refine Job.tags_subset_of_parts ?_ fun p hp => c.mem_nested_of_expand hp
    exact forall_tags_expand (fun _ htag => htag) c
  | select q =>
    obtain ⟨_, rfl⟩ | ⟨p, hp, rfl⟩ | ⟨_, htags, hnested⟩ := mem_calls_select h
    · exact List.Subset.refl _
    · exact Job.tags_subselect_subset hp
    · exact Job.tags_subset_of_parts htags hnested
  | source x =>
    obtain ⟨p, hp, rfl⟩ := List.mem_map.mp h
    exact Job.tags_subselect_subset hp
  | conditions items =>
    obtain ⟨x, hx, rfl⟩ := List.mem_map.mp h
    refine Job.tags_subset_of_parts (fun tag htag => ?_) fun p hp => ?_
    · exact Condition.mem_tagsAll.mpr ⟨x, hx, htag⟩
    · rw [Job.queries, Condition.queriesAll_eq_flatMap]
      exact List.mem_flatMap.mpr ⟨x, hx, hp⟩
  | condition x => exact tags_of_mem_calls_condition h
  | combines q parenthesize =>
    obtain ⟨p, hp, rfl⟩ := List.mem_map.mp h
    exact Job.tags_subselect_subset hp

/-- Expanding the deep joins of a query adds no tag. -/
theorem tags_expanded_subset (c : Compiler) (q : Query) :
    (Job.select ⟨(c.expand q.clauses).store, q.isDistinct⟩).tags ⊆ q.tags := by
  rw [← Job.tags_query]
  exact tags_of_mem_calls (c := c) List.mem_cons_self

/-- The writers, by job. No set operations are written as the empty text. -/
def perform (c : Compiler) : Job → CompileM String
  | .subselect q => c.subselect q
  | .select q => c.select q
  | .source source => c.source source
  | .conditions conditions => c.conditions conditions
  | .condition condition => c.condition condition
  | .combines q parenthesize => return (← c.combines q parenthesize).getD ""

/-! ## The writers solve the equations -/

section Perform

variable {c : Compiler}

theorem handOn_perform : handOn c.perform = c.prepare :=
  funext fun q => (prepare_eq q).symm

theorem unrollFrom_perform (s : Store Query) :
    unrollFrom c.perform s = c.writeFrom (s.map c.prepare) := by
  rw [unrollFrom, writeFrom, firstPayload?, payloads_map (Clause.source_map c.prepare),
    bind_map_left, bind_assoc]
  refine bind_congr fun sources => ?_
  rw [pure_bind, List.head?_map]
  cases sources.head? <;> rfl

theorem unrollJoins_perform (s : Store Query) :
    unrollJoins c.perform s = c.writeJoins (s.map c.prepare) := by
  rw [unrollJoins, writeJoins, payloads_map (Clause.join_map c.prepare), bind_map_left]
  refine bind_congr fun joins => ?_
  rw [List.mapM_map]
  rfl

theorem unrollWhere_perform (s : Store Query) :
    unrollWhere c.perform s = c.writeWhere (s.map c.prepare) := by
  rw [unrollWhere, writeWhere, Store.has_map, Store.has_map,
    payloads_map (Clause.condition_map c.prepare), bind_map_left]
  rfl

theorem unrollTerms_perform (conditions : List (Condition Query)) :
    unrollTerms c.perform conditions =
      c.writeTerms (conditions.map (Condition.map c.prepare)) := by
  induction conditions with
  | nil => rw [unrollTerms, List.map_nil, writeTerms]
  | cons condition rest ih =>
    obtain ⟨byOr, negated, p⟩ := condition
    rw [unrollTerms, List.map_cons, Condition.map, writeTerms, ih, perform, Compiler.condition,
      Condition.map]

theorem unrollHavings_perform (s : Store Query) :
    unrollHavings c.perform s = c.writeHavings (s.map c.prepare) := by
  rw [unrollHavings, writeHavings, payloads_map (Clause.condition_map c.prepare), bind_map_left]
  simp only [unrollTerms_perform]

theorem nonEmpty?_getD (sql : String) : nonEmpty? ((nonEmpty? sql).getD "") = nonEmpty? sql := by
  by_cases h : sql = ""
  · rw [h]
    rfl
  · simp [nonEmpty?, h]

theorem unrollSetOperations_perform (q : Query) :
    c.unrollSetOperations c.perform q = c.writeSetOperations (q.clauses.map c.prepare) := by
  have hcombines : ∀ parenthesize, (do
      return nonEmpty? (← c.perform (.combines q parenthesize)) : CompileM (Option String)) =
        writeCombines (q.clauses.map c.prepare) parenthesize := by
    intro parenthesize
    simp only [perform, combines, writeCombines, bind_assoc, pure_bind, nonEmpty?_getD]
  rw [unrollSetOperations, writeSetOperations]
  cases c.dialect.combines with
  | omitted => rfl
  | bare => exact hcombines false
  | parenthesized => exact hcombines true

theorem unrollSelect_perform (q : Query) : c.unrollSelect c.perform q = c.select q := by
  rw [unrollSelect, handOn_perform, unrollFrom_perform, unrollJoins_perform, unrollWhere_perform,
    unrollHavings_perform, unrollSetOperations_perform]
  rfl

theorem unrollCondition_perform (condition : Condition Query) :
    c.unrollCondition c.perform condition = c.condition condition := by
  obtain ⟨items, hp, hfind, _, hgroup⟩ | ⟨_, _, hwrite⟩ := c.unrollCondition_cases condition
  · obtain ⟨byOr, negated, p⟩ := condition
    obtain rfl : p = .group items := hp
    have hresolve : c.registry.resolve (Predicate.group (Condition.mapList c.prepare items)).tag =
        .ok (.standard .group) := Registry.resolve_of_find hfind
    rw [hgroup, Compiler.condition, Condition.map, Predicate.map, writeCondition, hresolve]
    simp only [writePredicate, Condition.mapList_eq_map, perform, conditions, writeConditions,
      bind_assoc, pure_bind]
  · rw [hwrite, handOn_perform]
    rfl

/-- The writers satisfy the equations of the recursion. -/
theorem unroll_perform (job : Job) : c.unroll c.perform job = c.perform job := by
  cases job with
  | subselect q => exact (c.subselect_eq q).symm
  | select q => exact unrollSelect_perform q
  | source source => rw [unroll, handOn_perform]; rfl
  | conditions conditions =>
    rw [unroll, unrollTerms_perform]
    rfl
  | condition condition => exact unrollCondition_perform condition
  | combines q parenthesize => rw [unroll, handOn_perform]; rfl

end Perform

end Compiler

end SqlSelect
