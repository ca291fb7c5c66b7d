import SqlSelect.Proofs.Calls
import SqlSelect.Proofs.Faults

/-!
# Errors of queries made by builder calls

A builder call puts clauses under the component of their kind, and it never appends to a component
that holds one clause only. So a query that is made by calls alone, with nested queries made in the
same way, has no misplaced clause at any level, and neither has its expansion. What can still go
wrong are roots that are missing, fragments that do not match their values and custom predicates,
whose tags the library does not know.
-/

namespace SqlSelect

variable {Q : Type}

open Ledger

/-- No custom predicate has a tag of the library. -/
def Clause.Foreign (clause : Clause Q) : Prop :=
  ∀ tag ∈ clause.customTags, ∀ form : PredicateForm, form.tag ≠ tag

/-- There is one source, one aggregate, one limit and one lock at most. -/
def Store.Single (s : Store Q) : Prop :=
  ∀ component ∈ [Component.from, .aggregate, .limit, .lock], (s.clauses component).length ≤ 1

/-- What builder calls make of a store. -/
structure Store.Regular (s : Store Q) : Prop where
  placed : s.Forall fun component clause => clause.kind = component
  foreign : s.Forall fun _ clause => clause.Foreign
  single : s.Single

/-! ## Effects of calls -/

namespace Query

/-- The clauses that are passed in. -/
def Effect.arguments : Effect → List (Clause Query)
  | .append _ clauses => clauses
  | .assign clause => [clause]
  | .relimit _ | .distinct => []

/-- Clauses are appended under the component of their kind, of which there may be many. -/
def Effect.Plural : Effect → Prop
  | .append component clauses =>
    component.isSingle = false ∧ ∀ clause ∈ clauses, clause.kind = component
  | .assign _ | .relimit _ | .distinct => True

theorem Call.plural_effect (call : Call) : call.effect.Plural := by
  cases call <;> simp [Call.effect, Effect.Plural, Component.isSingle, Clause.kind]

section Effects

variable {effect : Effect} (heffect : effect.Plural) {q : Query}
include heffect

theorem Effect.forall_run {X : Component → Clause Query → Prop} (h : q.clauses.Forall X)
    (hlimit : ∀ limit, X .limit (.limit limit))
    (harguments : ∀ clause ∈ effect.arguments, X clause.kind clause) :
    (effect.run q).clauses.Forall X := by
  cases effect with
  | append component clauses =>
    have hclauses : ∀ clause ∈ clauses, X component clause := by
      intro clause hclause
      have hX := harguments clause hclause
      rwa [heffect.2 clause hclause] at hX
    simp only [run]
    -- the arguments have served their purpose and would weaken the induction hypothesis
    clear heffect harguments
    induction clauses generalizing q with
    | nil => exact h
    | cons clause clauses ih =>
      rw [List.forall_mem_cons] at hclauses
      exact ih (h.add hclauses.1) hclauses.2
  | assign clause => exact h.replace (harguments clause List.mem_cons_self)
  | relimit change => exact h.replace (hlimit _)
  | distinct => exact h

theorem Effect.single_run (h : q.clauses.Single) : (effect.run q).clauses.Single := by
  have hsingle : ∀ component ∈ [Component.from, .aggregate, .limit, .lock],
      component.isSingle = true := by decide
  intro component hcomponent
  rw [Effect.clauses_run]
  split
  · rename_i hchanged
    cases effect with
    | append own clauses =>
      have hown := hsingle component hcomponent
      rw [← Option.some.inj hchanged, heffect.1] at hown
      cases hown
    | assign clause => exact Nat.le_refl 1
    | relimit change => exact Nat.le_refl 1
    | distinct => cases hchanged
  · exact h component hcomponent

end Effects

/-! ## Queries made by calls -/

/-- The nested queries that are passed in satisfy `N`, and no custom predicate has a tag of the
library. -/
def Call.Admits (N : Query → Prop) (call : Call) : Prop :=
  ∀ clause ∈ call.effect.arguments, clause.Meets .any N ∧ clause.Foreign

/-- The queries that are made by calls, from nested queries that are made by calls. -/
inductive Built : Query → Prop
  | intro {N : Query → Prop} (nested : ∀ p, N p → Built p) {calls : List Call} :
      (∀ call ∈ calls, call.Admits N) → Built (Query.empty.perform calls)

section Calls

variable {N : Query → Prop} {q : Query}

theorem Call.regular_run {call : Call} (hcall : call.Admits N) (h : q.clauses.Regular)
    (hq : q.clauses.Meets .any N) :
    (call.run q).clauses.Regular ∧ (call.run q).clauses.Meets .any N := by
  have heffect := call.plural_effect
  rw [Call.run_eq]
  refine ⟨⟨?_, ?_, Effect.single_run heffect h.single⟩, ?_⟩
  · exact Effect.forall_run heffect h.placed (fun _ => rfl) fun _ _ => rfl
  · exact Effect.forall_run heffect h.foreign (fun _ _ htag => absurd htag List.not_mem_nil)
      fun clause hclause => (hcall clause hclause).2
  · exact Effect.forall_run (X := fun _ clause => clause.Meets .any N) heffect hq
      (fun _ => trivial) fun clause hclause => (hcall clause hclause).1

theorem regular_perform {calls : List Call} (hcalls : ∀ call ∈ calls, call.Admits N)
    (h : q.clauses.Regular) (hq : q.clauses.Meets .any N) :
    (q.perform calls).clauses.Regular ∧ (q.perform calls).clauses.Meets .any N := by
  induction calls generalizing q with
  | nil => exact ⟨h, hq⟩
  | cons call calls ih =>
    rw [List.forall_mem_cons] at hcalls
    obtain ⟨hrun, hqrun⟩ := Call.regular_run hcalls.1 h hq
    exact ih hcalls.2 hrun hqrun

theorem regular_empty : Query.empty.clauses.Regular where
  placed := fun _ he => absurd he List.not_mem_nil
  foreign := fun _ he => absurd he List.not_mem_nil
  single := fun _ _ => Nat.zero_le 1

theorem Built.throughout (h : q.Built) : q.Throughout Store.Regular := by
  induction h with
  | intro _ hcalls ih =>
    obtain ⟨hregular, hmeets⟩ := regular_perform hcalls regular_empty .empty
    exact .intro ih hregular hmeets

end Calls

end Query

/-! ## Errors -/

/-- The error of a clause that is not of the kind of its component. -/
def CompileError.isMisplacement : CompileError → Bool
  | .invalidClause .. => true
  | .missingRoot _ | .placeholderMismatch .. | .unresolvedHandler _ => false

theorem Expander.expandEach_failure {x : Expander} {s : Store Q} {triggers : List (Nat × DeepJoin)}
    {e : CompileError} (h : (x.expandEach s triggers).failure? = some e) :
    e.isMisplacement = false := by
  induction triggers generalizing s with
  | nil => cases h
  | cons t ts ih =>
    obtain ⟨id, d⟩ := t
    rw [Expander.expandEach] at h
    obtain ⟨hchain, _⟩ | ⟨hchain, _⟩ := x.chain_cases s d
    · rw [hchain] at h
      exact ih h
    · rw [hchain] at h
      cases h
      rfl

/-- Deep joins in their place fail for want of a root only. -/
theorem Expander.expand_failure {x : Expander} {s : Store Q} (hs : s.Placed .deepJoin)
    {e : CompileError} (h : (x.expand s).failure? = some e) : e.isMisplacement = false := by
  have hdeep : ∀ clause ∈ s.clauses .deepJoin, ∃ d, clause = .deepJoin d := by
    intro clause hclause
    have hkind := hs clause hclause
    cases clause <;> cases hkind
    exact ⟨_, rfl⟩
  obtain ⟨triggers, htriggers⟩ := Store.exists_deepJoins hdeep
  rw [Expander.expand, htriggers] at h
  exact Expander.expandEach_failure h

theorem Policy.within_placed : Policy.within (·.isMisplacement = false) = Policy.any := by
  have hfragment : (Policy.within (·.isMisplacement = false)).fragment = Policy.any.fragment := by
    funext f
    exact eq_true (f.within_ledger.mpr (Or.inr rfl))
  rw [Policy.within, Policy.any, Policy.mk.injEq]
  exact ⟨hfragment, rfl, rfl⟩

theorem customFault_of_foreign {tag : String} (h : ∀ form : PredicateForm, form.tag ≠ tag) :
    customFault tag = .unresolvedHandler tag := by
  have hnone : PredicateForm.ofTag? tag = none := by
    rw [PredicateForm.ofTag?, List.find?_eq_none]
    intro form _
    rw [beq_iff_eq]
    exact h form
  rw [customFault, hnone]
  rfl

/-- Queries made by calls bring no misplaced clause into a ledger. -/
theorem Query.within_ledger (x : Expander) (unions : Bool) {q : Query}
    (h : q.Throughout Store.Regular) :
    (q.ledger x unions).Within (·.isMisplacement = false) := by
  induction q using Query.induction with
  | step q ih =>
    obtain ⟨hregular, hnested⟩ := (Query.throughout_iff _ q).mp h
    rw [Query.ledger_eq]
    cases hfailure : (x.expand q.clauses).failure? with
    | some e =>
      exact (within_fault e).mpr
        (Expander.expand_failure (hregular.placed.clauses .deepJoin) hfailure)
    | none =>
      -- the joins of links are in their place, have no custom predicate and nest no query
      have hplaced := hregular.placed.expand (fun _ _ => rfl) x
      have hforeign := hregular.foreign.expand
        (fun _ _ _ htag => absurd htag List.not_mem_nil) x
      have hmeets := Expander.meets_expand trivial (ih.mp hnested) x
      refine (Store.within_ledger unions _).mpr fun component _ => ?_
      have hcomponent := (Store.placed_map (Query.ledger x unions) _ component).mpr
        (hplaced.clauses component)
      rw [hcomponent.componentLedger_eq, within_flatMap, Store.written_map, List.forall_mem_map]
      intro clause hclause
      have hmem := Store.mem_clauses_of_mem_written hclause
      rw [Clause.within_ledger, Policy.within_placed, Clause.meets_map, Clause.customTags_map]
      refine ⟨hmeets.clauses component clause hmem, ?_⟩
      intro tag htag
      rw [customFault_of_foreign (hforeign.clauses component clause hmem tag htag)]
      rfl

/-- A query made by builder calls never fails for a misplaced clause, and after every call there is
one source, one aggregate, one limit and one lock at most, at every level. -/
theorem error_of_compile_perform {c : Compiler} (hd : c.dialect ∈ Dialect.builtin)
    (hr : c.registry = .standard) {calls : List Query.Call}
    (h : ∀ call ∈ calls, call.Admits Query.Built) :
    (∀ e, (c.compile (Query.empty.perform calls)).outcome = .error e →
      (∃ expression, e = .missingRoot expression) ∨
      (∃ expected found, e = .placeholderMismatch expected found) ∨
      ∃ tag, e = .unresolvedHandler tag) ∧
    ∀ n, (Query.empty.perform (calls.take n)).Throughout Store.Single := by
  constructor
  · intro e he
    have hbuilt : (Query.empty.perform calls).Built := .intro (fun _ hp => hp) h
    have hwithin := Query.within_ledger c.expander c.dialect.writesUnions hbuilt.throughout
    have hsettle := Compiler.bindings_eq_settle hd hr (Query.empty.perform calls)
    rw [Compiler.bindings, he] at hsettle
    have hkind : e.isMisplacement = false := by
      rcases (Query.ledger c.expander c.dialect.writesUnions _).settle_cases with
        ⟨vs, hvs, _⟩ | ⟨e', he', hmem⟩
      · rw [hvs] at hsettle
        cases hsettle
      · rw [he'] at hsettle
        cases hsettle
        exact hwithin e hmem
    cases e with
    | invalidClause component found => cases hkind
    | missingRoot expression => exact Or.inl ⟨expression, rfl⟩
    | placeholderMismatch expected found => exact Or.inr (Or.inl ⟨expected, found, rfl⟩)
    | unresolvedHandler tag => exact Or.inr (Or.inr ⟨tag, rfl⟩)
  · intro n
    have hbuilt : (Query.empty.perform (calls.take n)).Built :=
      .intro (fun _ hp => hp) fun call hcall => h call (List.mem_of_mem_take hcall)
    exact hbuilt.throughout.mono fun _ hs => hs.single

/-- A query over another one, with two limits, a fragment that lacks a value and a deep join. -/
theorem error_of_compile_perform_sample :
    let nested := Query.empty.perform [.fromTable "u", .limit 1, .offset 2]
    let calls := [Query.Call.fromQuery nested "n",
      .whereCondition (.ofPredicate (.raw ⟨"a = ?", []⟩)),
      .whereCondition (.ofPredicate (.custom "geo" "place" [])), .limit 3, .limit 4,
      .deepJoin "a.b"]
    let c : Compiler := { dialect := .mysql }
    (∀ call ∈ calls, call.Admits Query.Built) ∧ c.dialect ∈ Dialect.builtin ∧
      c.registry = .standard ∧ (c.compile (Query.empty.perform calls)).outcome.isOk = false ∧
      (∀ e, (c.compile (Query.empty.perform calls)).outcome = .error e →
        (∃ expression, e = .missingRoot expression) ∨
        (∃ expected found, e = .placeholderMismatch expected found) ∨
        ∃ tag, e = .unresolvedHandler tag) ∧
      (Query.empty.perform (calls.take 5)).Throughout Store.Single := by
  intro nested calls c
  have hforeign : ∀ form : PredicateForm, form.tag ≠ "geo" := by
    intro form
    cases form <;> decide
  have hnested : nested.Built := by
    refine .intro (fun p hp => hp.elim) (N := fun _ => False) ?_
    simp [Query.Call.Admits, Query.Call.effect, Query.Effect.arguments, Clause.Meets, Source.Meets,
      Clause.Foreign, Clause.customTags]
  have hcalls : ∀ call ∈ calls, call.Admits Query.Built := by
    simp [calls, Query.Call.Admits, Query.Call.effect, Query.Effect.arguments, Clause.Meets,
      Source.Meets, Condition.Meets, Predicate.Meets, Policy.any, Condition.ofPredicate,
      Clause.Foreign, Clause.customTags, Condition.customTags, Predicate.customTags, hnested,
      hforeign]
  have hd : c.dialect ∈ Dialect.builtin := by simp [c, Dialect.builtin]
  obtain ⟨herrors, hsingle⟩ := error_of_compile_perform hd rfl hcalls
  exact ⟨hcalls, hd, rfl, by decide +kernel, herrors, hsingle 5⟩

end SqlSelect
