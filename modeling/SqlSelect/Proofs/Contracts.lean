import SqlSelect.Proofs.Recursion

/-!
# Contracts of compiler actions

How an action changes the context matters apart from the text that it writes. A `Contract` says
which changes are allowed, whether the action succeeds or fails. What the writers do by themselves
is allowed by every contract, so a query tree keeps a contract if the handlers of its tags keep it
and the events of expansion are allowed.
-/

namespace SqlSelect

variable {α β : Type}

/-- How an action may change the context. Values can always be bound. -/
structure Contract where
  step : Context → Context → Prop
  refl (ctx : Context) : step ctx ctx
  trans {ctx mid ctx' : Context} : step ctx mid → step mid ctx' → step ctx ctx'
  bind (ctx : Context) (values : Array Value) : step ctx { ctx with bindings := values }

namespace Contract

section Definitions

variable (K : Contract)

def Allows (ctx : Context) : EStateM.Result CompileError Context α → Prop
  | .ok _ ctx' | .error _ ctx' => K.step ctx ctx'

/-- The action keeps the contract in every context. -/
def Obeys (m : CompileM α) : Prop :=
  ∀ ctx, K.Allows ctx (m ctx)

/-- Conditions with the tag keep the contract, given that the queries nested in them do. -/
def Serves (c : Compiler) (tag : String) : Prop :=
  match c.registry.find? tag with
  | none | some (.standard _) => True
  | some (.custom write) => ∀ condition : Condition SubSelect,
      (condition.Meets .any fun sub => K.Obeys sub.write) → K.Obeys (write c.dialect condition)

end Definitions

variable {K : Contract}

theorem Allows.after {ctx mid : Context} {result : EStateM.Result CompileError Context α}
    (hstep : K.step ctx mid) (h : K.Allows mid result) : K.Allows ctx result := by
  cases result <;> exact K.trans hstep h

theorem Obeys.bind {m : CompileM α} {k : α → CompileM β} (hm : K.Obeys m)
    (hk : ∀ a, K.Obeys (k a)) : K.Obeys (m >>= k) := by
  intro ctx
  have h := hm ctx
  cases hrun : m ctx with
  | ok a mid =>
    rw [hrun] at h
    rw [bind_of_ok hrun]
    exact (hk a mid).after h
  | error e mid =>
    rw [hrun] at h
    rw [bind_of_error hrun]
    exact h

/-- What the writers do by themselves is allowed. -/
def law (K : Contract) : Law Unit where
  Holds m := K.Obeys (m ())
  pure _ := K.refl
  bind := Obeys.bind
  refuse _ := K.refl
  bindValue _ := fun ctx => K.bind ctx _
  bindValues _ := fun ctx => K.bind ctx _

variable {c : Compiler}

/-- A condition is written by a rule of the library, or by a function, or not at all. -/
theorem obeys_condition {x : Condition Query} (hserved : K.Serves c x.predicate.tag)
    (hcalls : ∀ j ∈ c.calls (.condition x), K.Obeys (c.perform j)) :
    K.Obeys (c.unrollCondition c.perform x) := by
  rw [Serves] at hserved
  cases hfind : c.registry.find? x.predicate.tag with
  | none =>
    rw [Compiler.unrollCondition_of_none hfind]
    exact K.refl
  | some handler =>
    cases handler with
    | standard form =>
      have hlaw : K.law.Holds fun _ => c.unrollCondition c.perform x :=
        Law.holds_unrollCondition hcalls hfind
      exact hlaw
    | custom write =>
      obtain ⟨hjobs, hwrite⟩ := Compiler.unrollCondition_of_custom hfind
      rw [hfind] at hserved
      rw [hjobs, List.forall_mem_map] at hcalls
      rw [hwrite]
      exact hserved _ ((Condition.meets_map _ _ _ x).mpr (x.meets_iff_queries.mpr hcalls))

variable (hexpand : ∀ (s : Store Query) (ctx : Context),
  K.step ctx { ctx with events := ctx.events ++ (c.expand s).events })
include hexpand

/-- By induction on the rank of the job. -/
theorem obeys_perform (job : Job) :
    (∀ tag ∈ job.tags, K.Serves c tag) → K.Obeys (c.perform job) := by
  induction job using Job.wellFounded_below.induction with
  | _ job ih =>
    intro htags
    have hcalls : ∀ j ∈ c.calls job, K.Obeys (c.perform j) := fun j hj =>
      ih j (Compiler.below_of_mem_calls hj) fun tag htag =>
        htags tag (Compiler.tags_of_mem_calls hj htag)
    have hlaw : K.law.Holds fun _ => c.unroll c.perform job := by
      refine Law.holds_unroll hexpand hcalls ?_
      rintro x rfl
      exact obeys_condition (htags _ (Job.tag_mem_tags x)) hcalls
    rw [← Compiler.unroll_perform]
    exact hlaw

/-- The outermost query, once its deep joins are expanded. -/
theorem obeys_select {q : Query} (htags : ∀ tag ∈ q.tags, K.Serves c tag) :
    K.Obeys (c.select ⟨(c.expand q.clauses).store, q.isDistinct⟩) := by
  exact obeys_perform hexpand (.select _) fun tag htag => htags tag (c.tags_expanded_subset q htag)

end Contract

end SqlSelect
