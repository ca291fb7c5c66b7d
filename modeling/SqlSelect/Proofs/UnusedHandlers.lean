import Mathlib.Logic.Relation
import SqlSelect.Proofs.Recursion

/-!
# Unused handlers

A compilation looks up the handlers of the tags in its query and no others. So two registries that
agree on the tags of a query tree compile it alike, events included.

A compilation that reports a tag is followed to where the report comes from. The jobs that a run
comes to are found by letting one of them fail: a run comes to a job if it fails whenever that job
does, in the same way. A run that reports a tag has come to a condition whose tag has no handler, or
to one whose handler is a registered function that reports the tag by itself.
-/

namespace SqlSelect

variable {α β Q : Type}

/-- The registries have the same handlers for the tags. -/
def Registry.AgreeOn (r r' : Registry) (tags : List String) : Prop :=
  ∀ tag ∈ tags, r.find? tag = r'.find? tag

/-! ## Registries that agree -/

namespace Compiler

variable {c : Compiler} {r : Registry}

/-- Apart from the rule for groups, the rules of the library look up no handler. -/
theorem writePredicate_congr (negated : Bool) : ∀ (p : Predicate SubSelect) (form : PredicateForm),
    p.form? = some form → form ≠ .group →
      writePredicate { c with registry := r } form negated p = c.writePredicate form negated p
  | .group _, _, rfl, hgroup => absurd rfl hgroup
  | .compare .., _, rfl, _ | .text .., _, rfl, _ | .compareColumns .., _, rfl, _
  | .raw .., _, rfl, _ | .isNull .., _, rfl, _ | .between .., _, rfl, _ | .oneOf .., _, rfl, _
  | .inQuery .., _, rfl, _ | .existsQuery .., _, rfl, _ => by
    rw [writePredicate, writePredicate]

theorem unrollCondition_of_agree {x : Condition Query}
    (h : r.find? x.predicate.tag = c.registry.find? x.predicate.tag)
    (write : Job → CompileM String) :
    unrollCondition { c with registry := r } write x = c.unrollCondition write x := by
  cases hfind : c.registry.find? x.predicate.tag with
  | none => rw [unrollCondition_of_none hfind, unrollCondition_of_none (h.trans hfind)]
  | some handler =>
    have hfind' := h.trans hfind
    cases handler with
    | custom handler =>
      rw [(unrollCondition_of_custom hfind).2,
        (unrollCondition_of_custom (c := { c with registry := r }) hfind').2]
    | standard form =>
      obtain ⟨items, hp, hgroup, _, hwrite⟩ | ⟨hother, _, hwrite⟩ :=
        unrollCondition_of_standard hfind
      · obtain ⟨_, hp', _, _, hwrite'⟩ | ⟨hother', _, _⟩ :=
          unrollCondition_of_standard (c := { c with registry := r }) hfind'
        · obtain rfl := Predicate.group.inj (hp.symm.trans hp')
          rw [hwrite, hwrite']
        · exact absurd hgroup (hother' (by rw [hp, hgroup]; rfl))
      · obtain ⟨_, hp', hgroup', _, _⟩ | ⟨_, _, hwrite'⟩ :=
          unrollCondition_of_standard (c := { c with registry := r }) hfind'
        · exact absurd hgroup' (hother (by rw [hp', hgroup']; rfl))
        · rw [hwrite, hwrite']
          by_cases hform : x.predicate.form? = some form
          · have hform' := (Predicate.form_map (f := handOn write) x.predicate).trans hform
            exact writePredicate_congr _ _ form hform' (hother hform)
          · have hform' : (x.predicate.map (handOn write)).form? ≠ some form :=
              x.predicate.form_map ▸ hform
            rw [writePredicate_of_ne hform', writePredicate_of_ne hform']

theorem unroll_of_agree {job : Job} (h : r.AgreeOn c.registry job.tags)
    (write : Job → CompileM String) :
    unroll { c with registry := r } write job = c.unroll write job := by
  cases job with
  | condition x => exact unrollCondition_of_agree (h _ (Job.tag_mem_tags x)) write
  | _ => rfl

theorem perform_of_agree (job : Job) : r.AgreeOn c.registry job.tags →
    perform { c with registry := r } job = c.perform job := by
  induction job using Job.wellFounded_below.induction with
  | _ job ih =>
    intro h
    rw [← unroll_perform, ← unroll_perform, unroll_of_agree h]
    refine unroll_congr fun j hj => ih j (below_of_mem_calls hj) fun tag htag => ?_
    exact h tag (tags_of_mem_calls hj htag)

theorem compile_of_agree {q : Query} (h : r.AgreeOn c.registry q.tags) :
    compile { c with registry := r } q = c.compile q := by
  have hselect : select { c with registry := r } ⟨(c.expand q.clauses).store, q.isDistinct⟩ =
      c.select ⟨(c.expand q.clauses).store, q.isDistinct⟩ :=
    perform_of_agree (.select _) fun tag htag => h tag (c.tags_expanded_subset q htag)
  rw [compile, compile, ← hselect]
  rfl

end Compiler

/-! ## What a run comes to -/

namespace Compiler

section Definitions

variable (c : Compiler)

/-- The function writes all jobs as the compiler does, but for one start of one job, which fails. -/
structure Deviates (b : Job × Context) (e : CompileError) (ctx : Context)
    (write : Job → CompileM String) : Prop where
  elsewhere : ∀ job start, (job, start) ≠ b → write job start = c.perform job start
  there : write b.1 b.2 = .error e ctx

/-- Performing a job in a context comes to a job that is handed on, in the context in which that is
started: whatever failure there would be the failure of the whole. -/
def Invokes (a b : Job × Context) : Prop :=
  ∀ e ctx write, c.Deviates b e ctx write → c.unroll write a.1 a.2 = .error e ctx

/-- Performing the one job comes to the other, through any number of jobs. -/
def Reaches : Job × Context → Job × Context → Prop :=
  Relation.ReflTransGen c.Invokes

/-- The handler of the condition is a registered function. Started in the context it reports the
tag, and none of the jobs that it comes to has failed in this way. -/
def Raises (x : Condition Query) (ctx : Context) (tag : String) : Prop :=
  ∃ handler ctx', c.registry.find? x.predicate.tag = some (.custom handler) ∧
    handler c.dialect (x.map c.prepare) ctx = .error (.unresolvedHandler tag) ctx' ∧
    ∀ b, c.Invokes (.condition x, ctx) b → c.perform b.1 b.2 ≠ .error (.unresolvedHandler tag) ctx'

end Definitions

variable {c : Compiler}

/-- The failure of a job that a run comes to is the failure of the run. -/
theorem Reaches.error {a b : Job × Context} (h : c.Reaches a b) {e : CompileError} {ctx : Context}
    (hb : c.perform b.1 b.2 = .error e ctx) : c.perform a.1 a.2 = .error e ctx := by
  induction h with
  | refl => exact hb
  | tail _ hstep ih =>
    refine ih ?_
    rw [← unroll_perform]
    exact hstep e ctx c.perform ⟨fun _ _ _ => rfl, hb⟩

/-- A condition without a handler is reported, and so is what its handler raises. -/
theorem error_of_reason {x : Condition Query} {start : Context} {tag : String}
    (h : tag = x.predicate.tag ∧ c.registry.find? tag = none ∨ c.Raises x start tag) :
    ∃ ctx, c.perform (.condition x) start = .error (.unresolvedHandler tag) ctx := by
  rw [← unroll_perform, unroll]
  obtain ⟨rfl, hnone⟩ | ⟨handler, ctx, hfind, hrun, _⟩ := h
  · rw [unrollCondition_of_none hnone]
    exact ⟨start, rfl⟩
  · rw [(unrollCondition_of_custom hfind).2, handOn_perform]
    exact ⟨ctx, hrun⟩

/-- There is a function that deviates at a given place. -/
theorem exists_deviates (b : Job × Context) (e : CompileError) (ctx : Context) :
    ∃ write, c.Deviates b e ctx write := by
  classical
  refine ⟨fun job start => if (job, start) = b then .error e ctx else c.perform job start, ?_, ?_⟩
  · exact fun job start hne => if_neg hne
  · exact if_pos rfl

/-- A job comes to jobs that it hands on, and to no others. -/
theorem Invokes.mem_calls {a b : Job × Context} (h : c.Invokes a b) : b.1 ∈ c.calls a.1 := by
  by_contra hmem
  -- A deviation elsewhere does not show, so the one run would fail with any error there is.
  have hsame : ∀ e, c.perform a.1 a.2 = .error e b.2 := by
    intro e
    obtain ⟨write, hwrite⟩ := c.exists_deviates b e b.2
    have hcongr : c.unroll write a.1 = c.unroll c.perform a.1 := by
      refine unroll_congr fun job hjob => funext fun start => ?_
      exact hwrite.elsewhere job start fun heq => hmem (heq ▸ hjob)
    rw [← unroll_perform, ← hcongr]
    exact h e b.2 write hwrite
  have hfirst := hsame (.missingRoot "")
  rw [hsame (.unresolvedHandler "")] at hfirst
  cases hfirst

theorem Reaches.tags_subset {a b : Job × Context} (h : c.Reaches a b) : b.1.tags ⊆ a.1.tags := by
  induction h with
  | refl => exact List.Subset.refl _
  | tail _ hstep ih => exact List.Subset.trans (tags_of_mem_calls hstep.mem_calls) ih

end Compiler

/-! ## Where a report comes from -/

/-- An action over open jobs that is as good as its jobs: a deviation shows in it, if at all, as its
own failure, and a tag that it reports was reported by one of its jobs. -/
structure Compiler.Traced (c : Compiler) (m : (Job → CompileM String) → CompileM α) : Prop where
  follows {b : Job × Context} {e : CompileError} {ctx : Context} {write : Job → CompileM String} :
    c.Deviates b e ctx write →
      ∀ start, m write start = m c.perform start ∨ m write start = .error e ctx
  origin {start : Context} {tag : String} {ctx : Context} :
    m c.perform start = .error (.unresolvedHandler tag) ctx →
    ∃ b, c.perform b.1 b.2 = .error (.unresolvedHandler tag) ctx ∧
      ∀ e ctx write, c.Deviates b e ctx write → m write start = .error e ctx

namespace Compiler.Traced

variable {c : Compiler}

/-- An action that hands on no job and reports no tag. -/
theorem const {m : CompileM α}
    (h : ∀ start tag ctx, m start ≠ .error (.unresolvedHandler tag) ctx) :
    c.Traced fun _ => m where
  follows _ _ := Or.inl rfl
  origin hrun := absurd hrun (h _ _ _)

theorem job (j : Job) : c.Traced fun write => write j where
  follows {b} _ _ _ hwrite start := by
    by_cases hb : (j, start) = b
    · subst hb
      exact Or.inr hwrite.there
    · exact Or.inl (hwrite.elsewhere j start hb)
  origin {start} _ _ hrun := ⟨(j, start), hrun, fun _ _ _ hwrite => hwrite.there⟩

theorem bind {m : (Job → CompileM String) → CompileM α}
    {k : (Job → CompileM String) → α → CompileM β} (hm : c.Traced m)
    (hk : ∀ a, c.Traced fun write => k write a) : c.Traced fun write => m write >>= k write where
  follows {b e ctx write} hwrite start := by
    rcases hm.follows hwrite start with hsame | hfail
    · cases hrun : m c.perform start with
      | error e' mid =>
        rw [bind_of_error hrun, bind_of_error (hsame.trans hrun)]
        exact Or.inl rfl
      | ok a mid =>
        rw [bind_of_ok hrun, bind_of_ok (hsame.trans hrun)]
        exact (hk a).follows hwrite mid
    · exact Or.inr (bind_of_error hfail)
  origin {start tag ctx} hrun := by
    cases hfirst : m c.perform start with
    | error e mid =>
      rw [bind_of_error hfirst] at hrun
      cases hrun
      obtain ⟨b, hb, hfail⟩ := hm.origin hfirst
      exact ⟨b, hb, fun e ctx write hwrite => bind_of_error (hfail e ctx write hwrite)⟩
    | ok a mid =>
      rw [bind_of_ok hfirst] at hrun
      obtain ⟨b, hb, hfail⟩ := (hk a).origin hrun
      refine ⟨b, hb, fun e ctx write hwrite => ?_⟩
      -- The deviation can show in the first action already.
      rcases hm.follows hwrite start with hsame | hearly
      · rw [bind_of_ok (hsame.trans hfirst)]
        exact hfail e ctx write hwrite
      · exact bind_of_error hearly

end Compiler.Traced

/-- Following a run is possible through all that the writers do by themselves. -/
def Compiler.tracing (c : Compiler) : Law (Job → CompileM String) where
  Holds := c.Traced
  pure a := .const fun _ _ _ h => by cases h
  bind := .bind
  refuse htag := .const fun _ _ _ h => by
    cases h
    cases htag
  bindValue _ := .const fun _ _ _ h => by cases h
  bindValues _ := .const fun _ _ _ h => by cases h

namespace Compiler

variable {c : Compiler}

/-- A job whose writing is not up to a registered function reports a tag because a job that it comes
to does. -/
theorem exists_invokes {job : Job} {start ctx : Context} {tag : String}
    (hrule : ∀ x, job = .condition x →
      ∃ form, c.registry.find? x.predicate.tag = some (.standard form))
    (h : c.perform job start = .error (.unresolvedHandler tag) ctx) :
    ∃ b, c.Invokes (job, start) b ∧ c.perform b.1 b.2 = .error (.unresolvedHandler tag) ctx := by
  have htraced : c.tracing.Holds fun write => c.unroll write job := by
    have hjobs : ∀ j ∈ c.calls job, c.tracing.Holds fun write => write j := fun j _ => .job j
    have hrecord : ∀ s : Store Query,
        c.tracing.Holds fun _ => CompileM.record (c.expand s).events :=
      fun _ => Traced.const fun _ _ _ h => by cases h
    refine Law.holds_unroll hrecord hjobs ?_
    rintro x rfl
    obtain ⟨form, hfind⟩ := hrule x rfl
    exact Law.holds_unrollCondition hjobs hfind
  rw [← unroll_perform] at h
  obtain ⟨b, hb, hinvokes⟩ := htraced.origin h
  exact ⟨b, hinvokes, hb⟩

/-- A run that reports a tag has come to a condition that gives reason to it. -/
theorem exists_reaches {tag : String} {ctx : Context} (job : Job) : ∀ start,
    c.perform job start = .error (.unresolvedHandler tag) ctx →
    ∃ x mid, c.Reaches (job, start) (.condition x, mid) ∧
      (tag = x.predicate.tag ∧ c.registry.find? tag = none ∨ c.Raises x mid tag) := by
  induction job using Job.wellFounded_below.induction with
  | _ job ih =>
    intro start h
    -- The report is passed on from a job of smaller rank, or it starts here.
    by_cases hjobs : ∃ b, c.Invokes (job, start) b ∧
        c.perform b.1 b.2 = .error (.unresolvedHandler tag) ctx
    · obtain ⟨⟨j, start'⟩, hinvokes, hb⟩ := hjobs
      obtain ⟨x, mid, hreaches, hx⟩ := ih j (below_of_mem_calls hinvokes.mem_calls) start' hb
      exact ⟨x, mid, .head hinvokes hreaches, hx⟩
    · have hcondition : ∃ x, job = .condition x ∧
          ∀ form, c.registry.find? x.predicate.tag ≠ some (.standard form) := by
        by_contra hnone
        refine hjobs (exists_invokes (fun x hx => ?_) h)
        by_contra hfind
        exact hnone ⟨x, hx, not_exists.mp hfind⟩
      obtain ⟨x, rfl, hfind⟩ := hcondition
      refine ⟨x, start, .refl, ?_⟩
      rw [← unroll_perform, unroll] at h
      cases hhandler : c.registry.find? x.predicate.tag with
      | none =>
        rw [unrollCondition_of_none hhandler] at h
        cases h
        exact Or.inl ⟨rfl, hhandler⟩
      | some handler =>
        cases handler with
        | standard form => exact absurd hhandler (hfind form)
        | custom handler =>
          rw [(unrollCondition_of_custom hhandler).2, handOn_perform] at h
          refine Or.inr ⟨handler, ctx, hhandler, h, fun b hb hfail => hjobs ⟨b, hb, hfail⟩⟩

end Compiler

/-! ## Handlers that are needed -/

/-- The conditions that a query writes itself: those of its joins, those on its rows if it has a
source, and those on its groups. -/
def Store.ownConditions (s : Store Q) : List (Condition Q) :=
  (s.get Clause.join? .join).flatMap (·.on) ++
    ((if s.has .from then s.get Clause.condition? .where else []) ++
      s.get Clause.condition? .having)

/-- The conditions that are written for a job, but not those in groups and in nested queries. -/
def Job.ownConditions : Job → List (Condition Query)
  | .select q => q.clauses.ownConditions
  | .conditions items => items
  | .condition x => [x]
  | .subselect _ | .source _ | .combines .. => []

/-- The action succeeds in some context. -/
def CompileM.Succeeds (m : CompileM α) : Prop :=
  ∃ ctx a ctx', m ctx = .ok a ctx'

namespace CompileM.Succeeds

theorem bind {m : CompileM α} {k : α → CompileM β} (h : (m >>= k).Succeeds) :
    m.Succeeds ∧ ∃ a, (k a).Succeeds := by
  obtain ⟨ctx, b, ctx', hrun⟩ := h
  obtain ⟨a, mid, hm, hk⟩ := bind_eq_ok hrun
  exact ⟨⟨ctx, a, mid, hm⟩, a, mid, b, ctx', hk⟩

theorem mapM {f : α → CompileM β} {xs : List α} (h : (xs.mapM f).Succeeds) :
    ∀ x ∈ xs, (f x).Succeeds := by
  induction xs with
  | nil => exact fun x hx => absurd hx List.not_mem_nil
  | cons x xs ih =>
    rw [List.mapM_cons] at h
    obtain ⟨hfirst, _, hrest⟩ := bind h
    exact List.forall_mem_cons.mpr ⟨hfirst, ih (bind hrest).1⟩

theorem read {s : Store Query} {p? : Clause Query → Option α} {component : Component}
    {k : List α → CompileM β}
    (h : (CompileM.ofExcept (s.getStrict p? component) >>= k).Succeeds) :
    (k (s.get p? component)).Succeeds := by
  cases hread : s.getStrict p? component with
  | error e =>
    rw [hread] at h
    obtain ⟨_, _, _, hrun⟩ := h
    cases hrun
  | ok xs =>
    rw [hread, Store.get_of_getStrict hread] at h
    exact h

end CompileM.Succeeds

namespace Compiler

variable {c : Compiler}

theorem succeeds_of_terms {items : List (Condition Query)}
    (h : (unrollTerms c.perform items).Succeeds) :
    ∀ x ∈ items, (c.perform (.condition x)).Succeeds := by
  induction items with
  | nil => exact fun x hx => absurd hx List.not_mem_nil
  | cons item items ih =>
    obtain ⟨hfirst, _, hrest⟩ := h.bind
    exact List.forall_mem_cons.mpr ⟨hfirst, ih hrest.bind.1⟩

theorem succeeds_of_conditions {items : List (Condition Query)}
    (h : (c.perform (.conditions items)).Succeeds) :
    ∀ x ∈ items, (c.perform (.condition x)).Succeeds := by
  rw [← unroll_perform] at h
  exact succeeds_of_terms h.bind.1

theorem succeeds_of_where {q : Query} (h : (unrollWhere c.perform q.clauses).Succeeds) :
    ∀ x ∈ (if q.clauses.has .from then q.clauses.get Clause.condition? .where else []),
      (c.perform (.condition x)).Succeeds := by
  cases hfrom : q.clauses.has .from with
  | false => exact fun x hx => absurd hx List.not_mem_nil
  | true =>
    cases hwhere : q.clauses.has .where with
    | false =>
      have hnil : q.clauses.get Clause.condition? .where = [] := by
        rw [Store.get, (Store.has_eq_false_iff _ .where).mp hwhere, List.filterMap_nil]
      rw [if_pos rfl, hnil]
      exact fun x hx => absurd hx List.not_mem_nil
    | true =>
      rw [unrollWhere, hfrom, hwhere] at h
      exact succeeds_of_conditions (CompileM.Succeeds.read h).bind.1

theorem succeeds_of_select {q : Query} (h : (c.perform (.select q)).Succeeds) :
    ∀ x ∈ q.clauses.ownConditions, (c.perform (.condition x)).Succeeds := by
  rw [← unroll_perform] at h
  have heach := h.bind.1.mapM
  simp only [List.forall_mem_cons, id_eq] at heach
  obtain ⟨_, _, _, hjoins, hwhere, _, hhavings, _⟩ := heach
  rw [Store.ownConditions, List.forall_mem_append, List.forall_mem_append]
  refine ⟨fun x hx => ?_, succeeds_of_where hwhere,
    succeeds_of_terms (CompileM.Succeeds.read hhavings).bind.1⟩
  obtain ⟨join, hjoin, hx⟩ := List.mem_flatMap.mp hx
  have hon := ((CompileM.Succeeds.read hjoins).bind.1.mapM join hjoin).bind.2
  obtain ⟨_, hon⟩ := hon
  exact succeeds_of_conditions hon.bind.1 x hx

/-- A condition that is written has a handler. -/
theorem registered_of_succeeds {x : Condition Query} (h : (c.perform (.condition x)).Succeeds) :
    (c.registry.find? x.predicate.tag).isSome = true := by
  rw [Option.isSome_iff_ne_none]
  intro hnone
  rw [← unroll_perform, unroll, unrollCondition_of_none hnone] at h
  obtain ⟨_, _, _, hrun⟩ := h
  cases hrun

theorem registered_of_job {job : Job} (h : (c.perform job).Succeeds) :
    ∀ x ∈ job.ownConditions, (c.registry.find? x.predicate.tag).isSome = true := by
  intro x hx
  refine registered_of_succeeds ?_
  cases job with
  | select q => exact succeeds_of_select h x hx
  | conditions items => exact succeeds_of_conditions h x hx
  | condition y =>
    rw [List.mem_singleton.mp hx]
    exact h
  | subselect q => cases hx
  | source y => cases hx
  | combines q parenthesize => cases hx

/-- The error of a compilation that reports a tag is that of writing the expanded query. -/
theorem report_iff {q : Query} {tag : String} :
    (c.compile q).outcome = .error (.unresolvedHandler tag) ↔
      (c.expand q.clauses).failure? = none ∧
        ∃ ctx, c.select (c.compile q).query {} = .error (.unresolvedHandler tag) ctx := by
  rw [outcome_compile, query_compile]
  cases hfailure : (c.expand q.clauses).failure? with
  | some e =>
    have htag := tag_of_expand hfailure
    constructor
    · rintro ⟨⟩
      cases htag
    · rintro ⟨⟨⟩, _⟩
  | none =>
    cases hrun : c.select ⟨(c.expand q.clauses).store, q.isDistinct⟩ {} with
    | ok text ctx => simp
    | error e ctx => simp

end Compiler

/-! ## Unused handlers -/

/-- A restriction with a group and with a nested query, in which there are a deep join and a tag
that the library lacks. -/
def Query.tagged : Query :=
  let nested := (((Query.empty.select ["id"]).fromTable "u").deepJoin "city").whereCondition
    (.ofPredicate (.custom "near" "at" [.int 1]))
  ((Query.empty.fromTable "t").whereCondition
    (.ofPredicate (.group [.ofPredicate (.isNull "a")]))).whereCondition
    (.ofPredicate (.inQuery "id" nested))

theorem eq_error_of_map {ε : Type} {f : α → β} {x : Except ε α} {e : ε}
    (h : x.map f = .error e) : x = .error e := by
  cases x with
  | error e' => exact congrArg Except.error (Except.error.inj h)
  | ok a => cases h

theorem Query.tags_tagged :
    Query.tagged.tags = ["nested", "null", "in_query", "columns", "near"] := by
  decide +kernel

/-- Handlers matter by the tags of a query tree only. Registries that agree on those tags, among
which a deep join with a path counts as a comparison of columns, give the same compilation: the same
statement or error, the same query and the same events. A compilation reports that a tag has no
handler exactly if its deep joins could be expanded and its run has come, in some context, to a
condition with a tag of the tree: the tag that is reported, which the registry lacks, or one whose
handler is a registered function that reports it there by itself. And the handlers do matter: with a
statement, each condition that is written for a job to which the run has come has one. -/
theorem unused_handlers_irrelevant (c : Compiler) (q : Query) :
    (∀ r : Registry, r.AgreeOn c.registry q.tags →
      Compiler.compile { c with registry := r } q = c.compile q) ∧
    (∀ tag, (c.compile q).outcome = .error (.unresolvedHandler tag) ↔
      (c.expand q.clauses).failure? = none ∧
      ∃ x ctx, c.Reaches (.select (c.compile q).query, {}) (.condition x, ctx) ∧
        x.predicate.tag ∈ q.tags ∧
        (tag = x.predicate.tag ∧ c.registry.find? tag = none ∨ c.Raises x ctx tag)) ∧
    ∀ statement, (c.compile q).outcome = .ok statement →
      ∀ job ctx, c.Reaches (.select (c.compile q).query, {}) (job, ctx) →
        ∀ x ∈ job.ownConditions, (c.registry.find? x.predicate.tag).isSome = true := by
  refine ⟨fun _ h => Compiler.compile_of_agree h, fun tag => ?_, fun statement h job ctx hjob => ?_⟩
  · rw [Compiler.report_iff]
    refine and_congr_right fun _ => ⟨?_, ?_⟩
    · rintro ⟨ctx, hrun⟩
      obtain ⟨x, mid, hreaches, hx⟩ := Compiler.exists_reaches (.select _) {} hrun
      have htag : x.predicate.tag ∈ (Job.select (c.compile q).query).tags :=
        hreaches.tags_subset (Job.tag_mem_tags x)
      rw [Compiler.query_compile] at htag
      exact ⟨x, mid, hreaches, c.tags_expanded_subset q htag, hx⟩
    · rintro ⟨x, mid, hreaches, _, hx⟩
      obtain ⟨ctx, hfail⟩ := Compiler.error_of_reason hx
      exact ⟨ctx, hreaches.error hfail⟩
  · obtain ⟨text, ctx', hrun, _⟩ := Compiler.select_of_compile h
    refine Compiler.registered_of_job ?_
    cases hperform : c.perform job ctx with
    | ok a mid => exact ⟨ctx, a, mid, hperform⟩
    | error e mid =>
      have hfail : c.select (c.compile q).query {} = .error e mid := hjob.error hperform
      rw [hrun] at hfail
      cases hfail

theorem unused_handlers_irrelevant_sample :
    let near : Handler := .custom fun d _ => pure (d.wrap "near")
    let r : Registry := ⟨[("near", near), ("nested", .standard .group), ("null", .standard .isNull),
      ("in_query", .standard .inQuery), ("columns", .standard .compareColumns),
      ("between", .custom fun _ _ => throw (.unresolvedHandler "between"))]⟩
    let c : Compiler := { registry := Registry.standard.register "near" near }
    let raising : Compiler :=
      { registry := c.registry.register "near" (.custom fun _ _ => throw (.unresolvedHandler "x")) }
    r.AgreeOn c.registry Query.tagged.tags ∧
    Compiler.compile { c with registry := r } Query.tagged = c.compile Query.tagged ∧
    (c.compile Query.tagged).outcome.map Statement.sql =
      .ok ("SELECT * FROM t WHERE (a IS NULL) AND id IN " ++
        "(SELECT id FROM u INNER JOIN city ON u.cityId = city.Id WHERE near)") ∧
    (∀ x ∈ (c.compile Query.tagged).query.clauses.ownConditions,
      (c.registry.find? x.predicate.tag).isSome = true) ∧
    (Compiler.compile {} Query.tagged).outcome = .error (.unresolvedHandler "near") ∧
    (∃ x ctx, Compiler.Reaches {} (.select (Compiler.compile {} Query.tagged).query, {})
        (.condition x, ctx) ∧ x.predicate.tag ∈ Query.tagged.tags ∧
      ("near" = x.predicate.tag ∧ Registry.standard.find? "near" = none ∨
        Compiler.Raises {} x ctx "near")) ∧
    (raising.compile Query.tagged).outcome = .error (.unresolvedHandler "x") ∧
    ∃ x ctx, raising.Reaches (.select (raising.compile Query.tagged).query, {})
        (.condition x, ctx) ∧ x.predicate.tag ∈ Query.tagged.tags ∧ raising.Raises x ctx "x" := by
  intro near r c raising
  have hagree : r.AgreeOn c.registry Query.tagged.tags := by
    rw [Query.tags_tagged]
    intro tag htag
    simp only [List.mem_cons, List.not_mem_nil, or_false] at htag
    rcases htag with rfl | rfl | rfl | rfl | rfl <;> rfl
  have hmissing : (Compiler.compile {} Query.tagged).outcome = .error (.unresolvedHandler "near") :=
    eq_error_of_map (show Except.map Statement.sql _ = _ by decide +kernel)
  have hraised : (raising.compile Query.tagged).outcome = .error (.unresolvedHandler "x") :=
    eq_error_of_map (show Except.map Statement.sql _ = _ by decide +kernel)
  obtain ⟨halike, _, hregistered⟩ := unused_handlers_irrelevant c Query.tagged
  have hsql : (c.compile Query.tagged).outcome.map Statement.sql =
      .ok ("SELECT * FROM t WHERE (a IS NULL) AND id IN " ++
        "(SELECT id FROM u INNER JOIN city ON u.cityId = city.Id WHERE near)") := by
    decide +kernel
  refine ⟨hagree, halike r hagree, hsql, ?_, hmissing,
    (((unused_handlers_irrelevant {} _).2.1 _).mp hmissing).2, hraised, ?_⟩
  · cases houtcome : (c.compile Query.tagged).outcome with
    | ok statement =>
      exact hregistered statement houtcome (.select (c.compile Query.tagged).query) {} .refl
    | error e =>
      rw [houtcome] at hsql
      cases hsql
  · obtain ⟨_, x, ctx, hreaches, htag, hx⟩ :=
      ((unused_handlers_irrelevant raising _).2.1 _).mp hraised
    refine ⟨x, ctx, hreaches, htag, hx.resolve_left ?_⟩
    rintro ⟨heq, _⟩
    rw [← heq, Query.tags_tagged] at htag
    revert htag
    decide

/-- A deep join needs the rule for comparisons of columns though no condition of the query has that
tag, and a function that was registered can report any tag. -/
theorem unwritten_tag_reported :
    let deep := (Query.empty.fromTable "posts").deepJoin "author"
    let null := (Query.empty.fromTable "t").whereCondition (.ofPredicate (.isNull "a"))
    let r := Registry.standard.register "null" (.custom fun _ _ => throw (.unresolvedHandler "x"))
    (⟨deep.clauses.entriesBesides .deepJoin, 0⟩ : Store Query).tags = [] ∧
    (Compiler.compile {} deep).outcome.map Statement.sql =
      .ok "SELECT * FROM posts INNER JOIN author ON posts.authorId = author.Id" ∧
    (Compiler.compile { registry := .empty } deep).outcome.map Statement.sql =
      .error (.unresolvedHandler "columns") ∧
    (Compiler.compile { registry := r } null).outcome.map Statement.sql =
      .error (.unresolvedHandler "x") ∧
    "x" ∉ null.tags := by
  decide +kernel

end SqlSelect
