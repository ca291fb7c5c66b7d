import Mathlib.Logic.Function.Iterate
import Mathlib.Order.WellFounded
import SqlSelect.Proofs.Laws

/-!
# The recursion of compilation

A nested query is written from an expanded copy, which can have more clauses than the query. Still
every job that is handed on has a smaller rank, which is the nesting depth and, at equal depths, the
size of the conditions. So the equations of the recursion have one solution, the writers are that
solution, and unrolling them often enough gives it.
-/

namespace SqlSelect

/-! ## Rank -/

section Size

variable {Q : Type}

mutual

/-- The number of conditions in a tree of them, with one more for every list. -/
def Predicate.size : Predicate Q → Nat
  | .group items => Condition.sizeAll items + 1
  | _ => 1

def Condition.size : Condition Q → Nat
  | ⟨_, _, p⟩ => p.size

def Condition.sizeAll : List (Condition Q) → Nat
  | [] => 1
  | c :: cs => c.size + Condition.sizeAll cs

end

theorem Condition.sizeAll_pos (cs : List (Condition Q)) : 0 < Condition.sizeAll cs := by
  induction cs with
  | nil => simp [Condition.sizeAll]
  | cons c cs ih =>
    rw [Condition.sizeAll]
    exact Nat.add_pos_right _ ih

theorem Condition.size_lt_sizeAll {c : Condition Q} {cs : List (Condition Q)} (h : c ∈ cs) :
    c.size < Condition.sizeAll cs := by
  induction cs with
  | nil => cases h
  | cons d cs ih =>
    rw [Condition.sizeAll]
    rcases List.mem_cons.mp h with rfl | hmem
    · exact Nat.lt_add_of_pos_right (Condition.sizeAll_pos cs)
    · exact Nat.lt_add_left _ (ih hmem)

end Size

namespace Job

/-- The nesting depth of a job, and what orders the jobs of one depth: the conditions by their
size, before them the other jobs in the order in which they are handed on. -/
def rank : Job → Nat × Nat
  | .combines q _ => (q.depth, 0)
  | .select q => (q.depth, 1)
  | .subselect q => (q.depth, 2)
  | .source s => (Query.deepest s.queries, 3)
  | .condition item => (Query.deepest item.queries, item.size + 3)
  | .conditions items => (Query.deepest (Condition.queriesAll items), Condition.sizeAll items + 3)

theorem depth_of_isPart {job : Job} (h : job.IsPart) : job.rank.1 = Query.deepest job.queries := by
  cases job with
  | source | condition | conditions => rfl
  | subselect | select | combines => exact h.elim

/-- The first job has the smaller rank, in lexicographic order. -/
def Below (job job' : Job) : Prop :=
  Prod.Lex (· < ·) (· < ·) job.rank job'.rank

theorem wellFounded_below : WellFounded Below :=
  InvImage.wf rank (WellFounded.prod_lex Nat.lt_wfRel.wf Nat.lt_wfRel.wf)

theorem below_of_depth_lt {job job' : Job} (h : job.rank.1 < job'.rank.1) : job.Below job' :=
  Prod.lex_def.mpr (Or.inl h)

theorem below_of_depth_le {job job' : Job} (h : job.rank.1 ≤ job'.rank.1)
    (horder : job.rank.2 < job'.rank.2) : job.Below job' :=
  Prod.lex_def.mpr ((Nat.lt_or_eq_of_le h).imp_right fun heq => ⟨heq, horder⟩)

end Job

namespace Compiler

variable {c : Compiler}

theorem below_of_mem_calls_select {q : Query} {job : Job} (h : job ∈ c.calls (.select q)) :
    job.Below (.select q) := by
  obtain ⟨_, rfl⟩ | ⟨p, hp, rfl⟩ | ⟨hpart, _, hnested⟩ := mem_calls_select h
  · exact Job.below_of_depth_le (Nat.le_refl _) Nat.zero_lt_one
  · exact Job.below_of_depth_lt (Query.depth_lt_depth hp)
  · refine Job.below_of_depth_lt ?_
    rw [Job.depth_of_isPart hpart]
    exact Query.deepest_lt_depth hnested

theorem below_of_mem_calls_condition {item : Condition Query} {job : Job}
    (h : job ∈ c.calls (.condition item)) : job.Below (.condition item) := by
  obtain ⟨items, hp, _, hjobs, _⟩ | ⟨_, hjobs, _⟩ := c.unrollCondition_cases item
  · rw [hjobs, List.mem_singleton] at h
    obtain ⟨byOr, negated, p⟩ := item
    obtain rfl : p = .group items := hp
    rw [h]
    refine Job.below_of_depth_le ?_ ?_
    · simp only [Job.rank, Condition.queries, Predicate.queries, Nat.le_refl]
    · simp only [Job.rank, Condition.size, Predicate.size]
      omega
  · rw [hjobs] at h
    obtain ⟨p, hp, rfl⟩ := List.mem_map.mp h
    refine Job.below_of_depth_le (Query.depth_le_deepest hp) ?_
    exact Nat.lt_add_left _ (Nat.lt_succ_self 2)

/-- A job hands on jobs of smaller rank. -/
theorem below_of_mem_calls {job job' : Job} (h : job' ∈ c.calls job) : job'.Below job := by
  cases job with
  | subselect q =>
    -- The copy can have more clauses than the query, but no nested query that it has not.
    rw [List.mem_singleton.mp h]
    exact Job.below_of_depth_le (q.depth_expand_le c q.isDistinct) Nat.one_lt_two
  | select q => exact below_of_mem_calls_select h
  | source s =>
    obtain ⟨p, hp, rfl⟩ := List.mem_map.mp h
    exact Job.below_of_depth_le (Query.depth_le_deepest hp) (Nat.lt_succ_self 2)
  | conditions items =>
    obtain ⟨item, hitem, rfl⟩ := List.mem_map.mp h
    refine Job.below_of_depth_le (Query.deepest_mono ?_)
      (Nat.add_lt_add_right (Condition.size_lt_sizeAll hitem) 3)
    rw [Condition.queriesAll_eq_flatMap]
    exact fun p hp => List.mem_flatMap.mpr ⟨item, hitem, hp⟩
  | condition item => exact below_of_mem_calls_condition h
  | combines q parenthesize =>
    obtain ⟨p, hp, rfl⟩ := List.mem_map.mp h
    exact Job.below_of_depth_lt (Query.depth_lt_depth hp)

/-! ## Rounds -/

/-- Finitely many bounds have a common one. -/
theorem exists_common_bound {α : Type} {P : α → Nat → Prop} (xs : List α)
    (h : ∀ x ∈ xs, ∃ n, ∀ m, n ≤ m → P x m) : ∃ n, ∀ x ∈ xs, ∀ m, n ≤ m → P x m := by
  induction xs with
  | nil => exact ⟨0, fun x hx => absurd hx List.not_mem_nil⟩
  | cons x xs ih =>
    rw [List.forall_mem_cons] at h
    obtain ⟨n, hn⟩ := h.1
    obtain ⟨k, hk⟩ := ih h.2
    refine ⟨n + k, List.forall_mem_cons.mpr ⟨fun m hm => ?_, fun y hy m hm => ?_⟩⟩
    · exact hn m (Nat.le_trans (Nat.le_add_right n k) hm)
    · exact hk y hy m (Nat.le_trans (Nat.le_add_left k n) hm)

/-- Unrolled often enough, the recursion of a job is the writer, whatever is at its end. -/
theorem exists_rounds (job : Job) :
    ∃ n, ∀ m, n ≤ m → ∀ write, c.unroll^[m] write job = c.perform job := by
  induction job using Job.wellFounded_below.induction with
  | _ job ih =>
    -- The jobs that are handed on have a common number of levels; this job takes one more.
    obtain ⟨n, hn⟩ := exists_common_bound (c.calls job) fun j hj => ih j (below_of_mem_calls hj)
    refine ⟨n + 1, fun m hm write => ?_⟩
    obtain ⟨k, rfl⟩ := Nat.exists_eq_add_of_le' (Nat.le_trans (Nat.le_add_left 1 n) hm)
    rw [Function.iterate_succ_apply', ← unroll_perform job]
    exact unroll_congr fun j hj => hn j hj k (Nat.le_of_succ_le_succ hm) write

theorem eq_perform_iff {write : Job → CompileM String} :
    write = c.perform ↔ ∀ job, c.unroll write job = write job := by
  constructor
  · rintro rfl
    exact unroll_perform
  · intro h
    funext job
    obtain ⟨n, hn⟩ := exists_rounds job
    rw [← hn n (Nat.le_refl n) write, Function.iterate_fixed (funext h)]

end Compiler

/-- Expansion leaves the nested queries of a store as they are (in a store whose entries are
numbered in order, as all that are built are) and never adds one. So the copy from which a nested
query is written is no deeper than the query, and every job that is handed on has a smaller rank.
The writers are the one solution of the equations of the recursion, and each job needs finitely many
levels of it. -/
theorem compilation_terminates (c : Compiler) :
    (∀ s : Store Query, s.Ordered → (c.expand s).failure? = none →
      (c.expand s).store.nested = s.nested) ∧
    (∀ (kind : JoinKind) (link : Link), (link.toJoin kind : Join Query).queries = []) ∧
    (∀ q : Query, Query.depth ⟨(c.expand q.clauses).store, q.isDistinct⟩ ≤ q.depth) ∧
    (∀ job, ∀ job' ∈ c.calls job, Prod.Lex (· < ·) (· < ·) job'.rank job.rank) ∧
    (∀ job write write', (∀ job' ∈ c.calls job, write job' = write' job') →
      c.unroll write job = c.unroll write' job) ∧
    (∀ write, (∀ job, c.unroll write job = write job) ↔ write = c.perform) ∧
    ∀ job, ∃ n, ∀ m, n ≤ m → ∀ write, c.unroll^[m] write job = c.perform job := by
  refine ⟨fun s h hnone => c.nested_expand h hnone, Link.queries_toJoin,
    fun q => q.depth_expand_le c q.isDistinct, fun job job' h => c.below_of_mem_calls h,
    fun job write write' h => Compiler.unroll_congr h, fun write => ?_, Compiler.exists_rounds⟩
  exact (Compiler.eq_perform_iff).symm

/-- A query over a query with deep joins; its own deep join stands for two joins. -/
theorem compilation_terminates_sample :
    let c : Compiler := { dialect := .postgres }
    let q := (Query.empty.fromQuery .deepSample "p").deepJoin "author.country"
    let expanded : Query := ⟨(c.expand q.clauses).store, q.isDistinct⟩
    q.clauses.Ordered ∧ (c.expand q.clauses).failure? = none ∧
      q.clauses.entries.length < expanded.clauses.entries.length ∧
      expanded.clauses.nested = q.clauses.nested ∧ q.depth = 2 ∧ expanded.depth ≤ q.depth ∧
      Prod.Lex (· < ·) (· < ·) (Job.select expanded).rank (Job.subselect q).rank ∧
      ∃ n, ∀ m, n ≤ m → ∀ write, c.unroll^[m] write (.subselect q) = c.subselect q := by
  intro c q expanded
  obtain ⟨hnested, _, hdepth, hrank, _, _, hrounds⟩ := compilation_terminates c
  have hordered : q.clauses.Ordered := Store.Reachable.ordered (.add _ _ (.replace _ _ .empty))
  have hnone : (c.expand q.clauses).failure? = none := rfl
  exact ⟨hordered, hnone, by decide +kernel, hnested _ hordered hnone, by decide +kernel, hdepth q,
    hrank (.subselect q) _ List.mem_cons_self, hrounds (.subselect q)⟩

end SqlSelect
