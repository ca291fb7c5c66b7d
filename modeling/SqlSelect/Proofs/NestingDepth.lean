import SqlSelect.Proofs.ConditionTags
import SqlSelect.Proofs.DeepJoins

/-!
# Nesting depth

The depth of a query tree is the length of its longest chain of queries, each nested in the one
before. Expansion makes a store longer, but it puts no query into it: the joins of a chain hold
none, and neither do the deep joins that it takes away. So an expanded query has the nested queries
that it had, and its depth does not grow.
-/

namespace SqlSelect

variable {α β Q R : Type}

/-! ## Nested queries -/

/-- The queries nested in the clauses of a store. -/
def Store.nested (s : Store Q) : List Q :=
  s.entries.flatMap (·.clause.queries)

theorem Store.meets_iff_nested {N : Q → Prop} (s : Store Q) :
    s.Meets .any N ↔ ∀ q ∈ s.nested, N q := by
  simp only [Store.Meets, Clause.meets_iff_queries, Store.nested, List.mem_flatMap]
  constructor
  · rintro h q ⟨e, he, hq⟩
    exact h e he q hq
  · intro h e he q hq
    exact h q ⟨e, he, hq⟩

section Map

variable (f : Q → R)

mutual

theorem Predicate.queries_map : ∀ p : Predicate Q, (p.map f).queries = p.queries.map f
  | .group items => by
    simp only [Predicate.map, Predicate.queries, Condition.queriesAll_map items]
  | .compare .. | .text .. | .compareColumns .. | .raw .. | .isNull .. | .between .. | .oneOf ..
  | .inQuery .. | .existsQuery .. | .custom .. => by
    simp [Predicate.map, Predicate.queries]

theorem Condition.queries_map : ∀ c : Condition Q, (c.map f).queries = c.queries.map f
  | ⟨_, _, p⟩ => by
    simp only [Condition.map, Condition.queries, Predicate.queries_map p]

theorem Condition.queriesAll_map : ∀ cs : List (Condition Q),
    Condition.queriesAll (Condition.mapList f cs) = (Condition.queriesAll cs).map f
  | [] => by simp [Condition.mapList, Condition.queriesAll]
  | c :: cs => by
    simp only [Condition.mapList, Condition.queriesAll, Condition.queries_map c,
      Condition.queriesAll_map cs, List.map_append]

end

theorem Clause.queries_map (c : Clause Q) : (c.map f).queries = c.queries.map f := by
  have hsource : ∀ s : Source Q, (s.map f).queries = s.queries.map f := by
    intro s
    cases s <;> rfl
  have hcolumn : ∀ c : Column Q, (c.map f).queries = c.queries.map f := by
    intro c
    cases c <;> rfl
  cases c with
  | «from» s => exact hsource s
  | join j =>
    simp only [Clause.map, Clause.queries, Join.queries, Join.map, hsource,
      ← Condition.mapList_eq_map, ← Condition.queriesAll_eq_flatMap, Condition.queriesAll_map,
      List.map_append]
  | «where» c => exact Condition.queries_map f c
  | having c => exact Condition.queries_map f c
  | group c => exact hcolumn c
  | select c => exact hcolumn c
  | union c => cases c <;> rfl
  | order _ => rfl
  | deepJoin _ => rfl
  | limit _ => rfl
  | aggregate _ => rfl
  | lock _ => rfl

theorem Store.nested_map (s : Store Q) : (s.map f).nested = s.nested.map f := by
  rw [Store.nested, Store.nested, Store.map, List.flatMap_map, List.map_flatMap]
  congr 1
  funext e
  exact Clause.queries_map f e.clause

end Map

/-- The tags of a tree, with those of the trees nested in it. -/
theorem Query.tags_eq (q : Query) :
    q.tags = q.clauses.tags ++ q.clauses.nested.flatMap Query.tags := by
  have hnested : (q.clauses.map Query.tags).entries.flatMap (·.clause.queries.flatten) =
      q.clauses.nested.flatMap Query.tags := by
    have hmap : q.clauses.nested.flatMap Query.tags =
        (q.clauses.map Query.tags).nested.flatMap id := by
      rw [Store.nested_map, List.flatMap_map]
      rfl
    rw [hmap, Store.nested, List.flatMap_assoc]
    simp only [List.flatMap_id]
  rw [Query.tags, Query.fold_eq, Store.tags_map]
  exact congrArg _ hnested

/-! ## Expansion -/

/-- The joins of a chain are joins of tables on columns. -/
theorem Link.queries_toJoin (kind : JoinKind) (link : Link) :
    (link.toJoin kind : Join Q).queries = [] := by
  rfl

theorem flatMap_filter_of_eq_nil {f : α → List β} {p : α → Bool} {xs : List α}
    (h : ∀ x ∈ xs, p x = false → f x = []) : (xs.filter p).flatMap f = xs.flatMap f := by
  induction xs with
  | nil => rfl
  | cons x xs ih =>
    have hrest := ih fun y hy => h y (List.mem_cons_of_mem x hy)
    cases hp : p x with
    | true => rw [List.filter_cons_of_pos hp, List.flatMap_cons, List.flatMap_cons, hrest]
    | false =>
      rw [List.filter_cons_of_neg (by simp [hp]), List.flatMap_cons, hrest,
        h x List.mem_cons_self hp, List.nil_append]

/-- Deep joins that are where they belong hold no queries. -/
theorem Store.nested_eq_besides {s : Store Q} {triggers : List (Nat × DeepJoin)}
    (h : s.deepJoins = .ok triggers) :
    s.nested = (s.entriesBesides .deepJoin).flatMap (·.clause.queries) := by
  refine (flatMap_filter_of_eq_nil fun e he hdeep => ?_).symm
  have hmem : e ∈ s.entriesOf .deepJoin :=
    Store.mem_entriesOf.mpr ⟨he, by simpa using hdeep⟩
  rw [(s.deepJoins_eq_ok_iff triggers).mp h] at hmem
  obtain ⟨t, _, rfl⟩ := List.mem_map.mp hmem
  rfl

theorem Expander.flatMap_joins (x : Expander) (first : Nat) (root? : Option String)
    (ds : List DeepJoin) :
    (Store.joinEntries (Q := Q) first (ds.flatMap (x.joins root?))).flatMap (·.clause.queries) =
      [] := by
  rw [List.flatMap_eq_nil_iff]
  intro e he
  obtain ⟨k, hk, rfl⟩ := List.mem_mapIdx.mp he
  obtain ⟨d, _, hjoin⟩ := List.mem_flatMap.mp (List.getElem_mem hk)
  obtain ⟨link, _, hlink⟩ := List.mem_map.mp hjoin
  rw [← hlink]
  exact Link.queries_toJoin d.kind link

/-- A successful expansion leaves the nested queries as they are. -/
theorem Expander.nested_expand (x : Expander) {s : Store Q} (h : s.Ordered)
    (hnone : (x.expand s).failure? = none) : (x.expand s).store.nested = s.nested := by
  obtain ⟨triggers, htriggers⟩ := Store.exists_deepJoins ((failure_eq_none_iff h).mp hnone).placed
  rw [(progress_of_failure_eq_none h hnone).store_eq, Store.nested_eq_besides htriggers,
    Store.nested, List.flatMap_append, x.flatMap_joins, List.append_nil]

section Compiler

variable (c : Compiler) {s : Store Q}

theorem Compiler.nested_expand (h : s.Ordered) (hnone : (c.expand s).failure? = none) :
    (c.expand s).store.nested = s.nested := by
  rw [Compiler.expand] at hnone ⊢
  split at hnone
  · rw [if_pos ‹_›]
    exact c.expander.nested_expand h hnone
  · rw [if_neg ‹_›]

/-- Whatever the store is, and also where expansion fails, no query is new. -/
theorem Compiler.mem_nested_of_expand {q : Q} (hq : q ∈ (c.expand s).store.nested) :
    q ∈ s.nested := by
  have hall : s.Meets .any (· ∈ s.nested) := s.meets_iff_nested.mpr fun _ h => h
  exact (Store.meets_iff_nested _).mp (hall.expand trivial c) q hq

end Compiler

/-! ## Depth -/

/-- The greatest of some numbers. -/
def greatest (ns : List Nat) : Nat :=
  ns.foldr Nat.max 0

theorem greatest_le_iff {ns : List Nat} {n : Nat} : greatest ns ≤ n ↔ ∀ m ∈ ns, m ≤ n := by
  induction ns with
  | nil => simp [greatest]
  | cons m ns ih =>
    rw [List.forall_mem_cons, ← ih]
    exact Nat.max_le

namespace Query

/-- The number of queries in the longest chain of nested ones. -/
def depth : Query → Nat :=
  Query.fold fun s _ => greatest s.nested + 1

/-- The depth of the deepest of some queries. -/
def deepest (qs : List Query) : Nat :=
  greatest (qs.map depth)

theorem depth_eq (q : Query) : q.depth = deepest q.clauses.nested + 1 := by
  rw [depth, Query.fold_eq, Store.nested_map]
  rfl

theorem depth_le_deepest {q : Query} {qs : List Query} (h : q ∈ qs) : q.depth ≤ deepest qs :=
  greatest_le_iff.mp (Nat.le_refl _) q.depth (List.mem_map_of_mem h)

theorem deepest_mono {qs qs' : List Query} (h : qs ⊆ qs') : deepest qs ≤ deepest qs' := by
  refine greatest_le_iff.mpr fun n hn => ?_
  obtain ⟨q, hq, rfl⟩ := List.mem_map.mp hn
  exact depth_le_deepest (h hq)

/-- A query is deeper than those nested in any part of it. -/
theorem deepest_lt_depth {q : Query} {qs : List Query} (h : qs ⊆ q.clauses.nested) :
    deepest qs < q.depth := by
  rw [depth_eq]
  exact Nat.lt_succ_of_le (deepest_mono h)

theorem depth_lt_depth {p q : Query} (h : p ∈ q.clauses.nested) : p.depth < q.depth :=
  Nat.lt_of_le_of_lt (depth_le_deepest h) (deepest_lt_depth (List.Subset.refl _))

theorem depth_expand_le (c : Compiler) (q : Query) (isDistinct : Bool) :
    depth ⟨(c.expand q.clauses).store, isDistinct⟩ ≤ q.depth := by
  rw [depth_eq, depth_eq q]
  exact Nat.succ_le_succ (deepest_mono fun _ hp => c.mem_nested_of_expand hp)

end Query

end SqlSelect
