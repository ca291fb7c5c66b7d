import SqlSelect.Proofs.Calls
import SqlSelect.Proofs.DeepJoins
import SqlSelect.Proofs.NestedActions

/-!
# The arrangement of clauses

A statement depends on the list of clauses of each component and on nothing else in the store: not
on the numbers of the clauses, and not on how the clauses of different components are mixed.
Expansion and the writers read a store component by component, so stores with the same clauses are
expanded to stores with the same clauses and written by the same action. In a tree the nested
queries may be arranged in another way too (`Query.Alike`).

Two builder calls on different components may be swapped, since each leaves the clauses of the
other's component as they are, and so may the two calls that change the limit.
-/

namespace SqlSelect

variable {Q R : Type}

/-- The stores have the same clauses under each component. -/
def Store.Rearranged (s s' : Store Q) : Prop :=
  ∀ component, s.clauses component = s'.clauses component

namespace Store.Rearranged

variable {s s' : Store Q}

theorem add (h : s.Rearranged s') (component : Component) (clause : Clause Q) :
    (s.add component clause).Rearranged (s'.add component clause) := by
  intro other
  rw [clauses_add, clauses_add, h other]

theorem addChain (h : s.Rearranged s') (kind : JoinKind) (links : List Link) :
    (s.addChain kind links).Rearranged (s'.addChain kind links) := by
  induction links generalizing s s' with
  | nil => exact h
  | cons link links ih => exact ih (h.add .join _)

theorem rootName_eq (h : s.Rearranged s') : s'.rootName? = s.rootName? := by
  rw [rootName?, getFirst?, ← h .from]
  rfl

theorem has_eq (h : s.Rearranged s') (component : Component) :
    s.has component = s'.has component := by
  rw [Bool.eq_iff_iff, has_eq_true_iff, has_eq_true_iff, h component]

end Store.Rearranged

/-! ## Expansion -/

/-- Erasing the first entry of a component drops the first of its clauses and no other. -/
theorem Store.Ordered.clauses_erase {s : Store Q} (h : s.Ordered) {component : Component}
    {e : Entry Q} {es : List (Entry Q)} (hs : s.entriesOf component = e :: es)
    (other : Component) :
    (s.erase e.id).clauses other =
      if component = other then (s.clauses other).tail else s.clauses other := by
  by_cases hother : component = other
  · subst hother
    rw [if_pos rfl, clauses, h.entriesOf_erase hs, clauses, hs]
    rfl
  · have he : e ∈ s.entriesOf component := hs ▸ List.mem_cons_self
    obtain ⟨hmem, hcomponent⟩ := mem_entriesOf.mp he
    have hne : other ≠ e.component := hcomponent ▸ Ne.symm hother
    rw [if_neg hother, clauses, entriesOf_of_ne _ hne, h.entriesBesides_erase hmem,
      ← entriesOf_of_ne _ hne]
    rfl

/-- What expansion leaves of two stores with the same clauses. -/
structure Expansion.Rearranged (x x' : Expansion Q) : Prop where
  store : x.store.Rearranged x'.store
  events_eq : x.events = x'.events
  failure_eq : x.failure? = x'.failure?

/-- Two runs through the same paths under different numbers. -/
theorem Store.Rearranged.expandEach {s s' : Store Q} (h : s.Rearranged s') (hs : s.Ordered)
    (hs' : s'.Ordered) (x : Expander) {ts ts' : List (Nat × DeepJoin)}
    (hts : s.entriesOf .deepJoin = ts.map DeepJoin.entry)
    (hts' : s'.entriesOf .deepJoin = ts'.map DeepJoin.entry)
    (hpaths : ts.map (·.2) = ts'.map (·.2)) :
    (x.expandEach s ts).Rearranged (x.expandEach s' ts') := by
  induction ts generalizing s s' ts' with
  | nil =>
    obtain rfl := List.map_eq_nil_iff.mp hpaths.symm
    exact ⟨h, rfl, rfl⟩
  | cons t ts ih =>
    obtain ⟨t', ts', rfl⟩ := List.exists_cons_of_ne_nil (l := ts') (by rintro rfl; cases hpaths)
    obtain ⟨id, d⟩ := t
    obtain ⟨id', d'⟩ := t'
    simp only [List.map_cons, List.cons.injEq] at hpaths
    obtain ⟨rfl, hpaths⟩ := hpaths
    rw [Expander.expandEach, Expander.expandEach, x.chain_congr h.rootName_eq]
    cases x.chain s d with
    | error e => exact ⟨h, rfl, rfl⟩
    | ok links =>
      rw [← s.entriesOf_addChain d.kind links (by decide)] at hts
      rw [← s'.entriesOf_addChain d.kind links (by decide)] at hts'
      have hchain := hs.addChain d.kind links
      have hchain' := hs'.addChain d.kind links
      -- each run erases a number of its own, which is the first clause of the component in both
      have hstep : ((s.addChain d.kind links).erase id).Rearranged
          ((s'.addChain d.kind links).erase id') := by
        intro component
        have herase := hchain.clauses_erase hts component
        rw [h.addChain d.kind links component] at herase
        exact herase.trans (hchain'.clauses_erase hts' component).symm
      have hrest := ih hstep (hchain.erase id) (hchain'.erase id') (hchain.entriesOf_erase hts)
        (hchain'.entriesOf_erase hts') hpaths
      exact ⟨hrest.store, congrArg (_ ++ ·) hrest.events_eq, hrest.failure_eq⟩

theorem Store.Rearranged.expand {s s' : Store Q} (h : s.Rearranged s') (hs : s.Ordered)
    (hs' : s'.Ordered) (c : Compiler) : (c.expand s).Rearranged (c.expand s') := by
  have hpaths : s.deepJoins.map (List.map (·.2)) = s'.deepJoins.map (List.map (·.2)) := by
    rw [deepJoins_eq_getStrict, deepJoins_eq_getStrict, getStrict, getStrict, h .deepJoin]
  unfold Compiler.expand
  split
  · unfold Expander.expand
    obtain ⟨e, hd, hd'⟩ | ⟨ts, ts', hd, hd', hpaths⟩ := map_eq_map_cases hpaths
    · rw [hd, hd']
      exact ⟨h, rfl, rfl⟩
    · rw [hd, hd']
      exact h.expandEach hs hs' c.expander ((s.deepJoins_eq_ok_iff ts).mp hd)
        ((s'.deepJoins_eq_ok_iff ts').mp hd') hpaths
  · exact ⟨h, rfl, rfl⟩

/-! ## Writing -/

section Writing

variable {c : Compiler} {s s' : Store SubSelect} (h : s.Rearranged s')
include h

theorem payloads_congr {α : Type} (payload? : Clause SubSelect → Option α)
    (component : Component) :
    Compiler.payloads s payload? component = Compiler.payloads s' payload? component := by
  rw [Compiler.payloads, Compiler.payloads, Store.getStrict, Store.getStrict, h component]

theorem writeSelect_congr (isDistinct : Bool) :
    c.writeSelect s isDistinct = c.writeSelect s' isDistinct := by
  have hfragments : c.fragments s isDistinct = c.fragments s' isDistinct := by
    simp only [Compiler.fragments, Compiler.writeAggregate, Compiler.writeProjection,
      Compiler.writeFrom, Compiler.writeJoins, Compiler.writeWhere, Compiler.writeGroups,
      Compiler.writeHavings, Compiler.writeOrders, Compiler.writeLimit, Compiler.writeOffset,
      Compiler.writeSetOperations, Compiler.writeCombines, Compiler.writeLock,
      Compiler.firstPayload?, payloads_congr h, h.has_eq]
  rw [Compiler.writeSelect, Compiler.writeSelect, hfragments]

theorem writeExpanded_congr (hs : s.Ordered) (hs' : s'.Ordered) (isDistinct : Bool) :
    c.writeExpanded s isDistinct = c.writeExpanded s' isDistinct := by
  have hexpand := h.expand hs hs' c
  simp only [Compiler.writeExpanded, hexpand.events_eq, hexpand.failure_eq,
    writeSelect_congr hexpand.store]

end Writing

/-- Queries with the same clauses compile alike, also if the nested ones are replaced by others of
which the writers see no difference. -/
theorem outcome_congr {c : Compiler} {q q' : Query} (hq : q.clauses.Ordered)
    (hq' : q'.clauses.Ordered) {f : Query → SubSelect}
    (hf : ∀ (s : Store Query) isDistinct,
      c.writeSelect (s.map f) isDistinct = c.writeSelect (s.map c.prepare) isDistinct)
    (h : (q.clauses.map f).Rearranged (q'.clauses.map f))
    (hdistinct : q.isDistinct = q'.isDistinct) :
    (c.compile q).outcome = (c.compile q').outcome := by
  have hexpand := h.expand (hq.map _) (hq'.map _) c
  rw [Compiler.expand_map, Compiler.expand_map] at hexpand
  have hfailure : (c.expand q.clauses).failure? = (c.expand q'.clauses).failure? :=
    hexpand.failure_eq
  have hselect : c.select ⟨(c.expand q.clauses).store, q.isDistinct⟩ =
      c.select ⟨(c.expand q'.clauses).store, q'.isDistinct⟩ := by
    rw [Compiler.select, Compiler.select, ← hf, ← hf, hdistinct]
    exact writeSelect_congr hexpand.store q'.isDistinct
  rw [Compiler.outcome_compile, Compiler.outcome_compile, hfailure, hselect]

/-! ## Query trees -/

/-- Two clauses that differ in their nested queries only, which are related: they are the two sides
of a clause that nests pairs. -/
def Clause.Related (r : Q → R → Prop) (a : Clause Q) (b : Clause R) : Prop :=
  ∃ pairs : Clause (Q × R), pairs.Meets .any (fun p => r p.1 p.2) ∧
    pairs.map Prod.fst = a ∧ pairs.map Prod.snd = b

/-- The trees agree at each level in the request for distinct rows and in the list of clauses of
each component. The relation `r` stands for that of the nested trees. -/
inductive Query.Alike : Query → Query → Prop
  | intro {q q' : Query} {r : Query → Query → Prop} (nested : ∀ p p', r p p' → Alike p p') :
      q.isDistinct = q'.isDistinct →
      (∀ component, List.Forall₂ (Clause.Related r) (q.clauses.clauses component)
        (q'.clauses.clauses component)) → Alike q q'

/-- Related clauses become equal when related queries do. -/
theorem Clause.Related.map_eq {S : Type} {r : Q → R → Prop} {M : Q → Prop} {N : R → Prop}
    {f : Q → S} {g : R → S} (hfg : ∀ p p', r p p' → M p → N p' → f p = g p') {a : Clause Q}
    {b : Clause R} (h : Clause.Related r a b) (ha : a.Meets .any M) (hb : b.Meets .any N) :
    a.map f = b.map g := by
  obtain ⟨pairs, hpairs, rfl, rfl⟩ := h
  rw [Clause.meets_map] at ha hb
  have hequal : pairs.Meets .any fun p => (f ∘ Prod.fst) p = (g ∘ Prod.snd) p :=
    (((Clause.meets_any (fun p => hfg p.1 p.2) pairs).mp hpairs).mp ha).mp hb
  rw [Clause.map_map, Clause.map_map, Clause.map_congr hequal]

theorem Clause.related_self {r : Q → Q → Prop} {a : Clause Q} (h : a.Meets .any fun q => r q q) :
    Clause.Related r a a := by
  have hside : ∀ side : Q × Q → Q, side ∘ (fun q => (q, q)) = id →
      (a.map fun q => (q, q)).map side = a := by
    intro side hid
    rw [Clause.map_map, hid, Clause.map_id]
  exact ⟨a.map fun q => (q, q), (Clause.meets_map _ _ _ a).mpr h, hside _ rfl, hside _ rfl⟩

/-- Stores of related clauses become rearranged when related queries become equal. -/
theorem Store.rearranged_map {S : Type} {r : Q → Q → Prop} {M : Q → Prop} {f : Q → S}
    (hf : ∀ p p', r p p' → M p → M p' → f p = f p') {s s' : Store Q} (hs : s.Meets .any M)
    (hs' : s'.Meets .any M) (h : ∀ component,
      List.Forall₂ (Clause.Related r) (s.clauses component) (s'.clauses component)) :
    (s.map f).Rearranged (s'.map f) := by
  intro component
  have hclauses := hs.clauses component
  have hclauses' := hs'.clauses component
  have hrelated := h component
  rw [clauses_map, clauses_map]
  generalize s.clauses component = cs at hclauses hrelated
  generalize s'.clauses component = cs' at hclauses' hrelated
  induction hrelated with
  | nil => rfl
  | cons hab _ ih =>
    rw [List.forall_mem_cons] at hclauses hclauses'
    rw [List.map_cons, List.map_cons, hab.map_eq hf hclauses.1 hclauses'.1,
      ih hclauses.2 hclauses'.2]

section Alike

variable {c : Compiler} (hblind : c.registry.Blind)
include hblind

/-- Trees that are alike are written by the same action. -/
theorem Query.Alike.subselect_eq {q q' : Query} (h : q.Alike q') (hq : q.Reachable)
    (hq' : q'.Reachable) : c.subselect q = c.subselect q' := by
  induction h with
  | @intro q q' r _ hdistinct hclauses ih =>
    obtain ⟨hstore, hnested⟩ := (Query.throughout_iff _ q).mp hq
    obtain ⟨hstore', hnested'⟩ := (Query.throughout_iff _ q').mp hq'
    have hbare : ∀ p p', r p p' → p.Reachable → p'.Reachable →
        (SubSelect.bare ∘ c.prepare) p = (SubSelect.bare ∘ c.prepare) p' :=
      fun p p' hr hp hp' => congrArg (SubSelect.mk Query.empty) (ih p p' hr hp hp')
    have hsame := Store.rearranged_map hbare hnested hnested' hclauses
    rw [← Store.map_map, ← Store.map_map] at hsame
    rw [Compiler.subselect_eq_writeExpanded, Compiler.subselect_eq_writeExpanded, hdistinct,
      ← Compiler.writeExpanded_bare hblind, ← Compiler.writeExpanded_bare hblind (q'.clauses.map _)]
    exact writeExpanded_congr hsame ((hstore.ordered.map _).map _) ((hstore'.ordered.map _).map _) _

theorem Query.Alike.outcome_eq {q q' : Query} (h : q.Alike q') (hq : q.Reachable)
    (hq' : q'.Reachable) : (c.compile q).outcome = (c.compile q').outcome := by
  obtain ⟨nested, hdistinct, hclauses⟩ := h
  obtain ⟨hstore, hnested⟩ := (Query.throughout_iff _ q).mp hq
  obtain ⟨hstore', hnested'⟩ := (Query.throughout_iff _ q').mp hq'
  have hsee : ∀ (s : Store Query) isDistinct,
      c.writeSelect (s.map (SubSelect.bare ∘ c.prepare)) isDistinct =
        c.writeSelect (s.map c.prepare) isDistinct := by
    intro s isDistinct
    rw [← Store.map_map, Compiler.writeSelect_bare hblind]
  refine outcome_congr hstore.ordered hstore'.ordered hsee ?_ hdistinct
  refine Store.rearranged_map (fun p p' hr hp hp' => ?_) hnested hnested' hclauses
  exact congrArg (SubSelect.mk Query.empty) ((nested p p' hr).subselect_eq hblind hp hp')

end Alike

theorem Query.Alike.refl (q : Query) : q.Alike q := by
  induction q using Query.induction with
  | step q ih =>
    refine .intro (r := fun p p' => p.Alike p') (fun _ _ h => h) rfl fun component => ?_
    exact List.forall₂_same.mpr fun clause hclause =>
      Clause.related_self (ih.clauses component clause hclause)

/-! ## Builder calls -/

namespace Query

/-- The queries have the same clauses under each component and the same request for distinct
rows; the queries nested in the clauses are the same. -/
structure Rearranged (q q' : Query) : Prop where
  clauses : q.clauses.Rearranged q'.clauses
  isDistinct_eq : q.isDistinct = q'.isDistinct

namespace Rearranged

variable {q q' : Query}

theorem alike (h : q.Rearranged q') : q.Alike q' := by
  refine .intro (r := fun p p' => p.Alike p') (fun _ _ h => h) h.isDistinct_eq fun component => ?_
  rw [h.clauses component]
  exact List.forall₂_same.mpr fun clause _ => Clause.related_self (Clause.meets_any .refl clause)

theorem outcome_eq (h : q.Rearranged q') (hq : q.clauses.Reachable) (hq' : q'.clauses.Reachable)
    (c : Compiler) : (c.compile q).outcome = (c.compile q').outcome := by
  refine outcome_congr hq.ordered hq'.ordered (fun _ _ => rfl) (fun component => ?_) h.isDistinct_eq
  rw [Store.clauses_map, Store.clauses_map, h.clauses component]

theorem run (h : q.Rearranged q') (effect : Effect) :
    (effect.run q).Rearranged (effect.run q') where
  clauses := fun component => by
    rw [effect.clauses_run, effect.clauses_run, h.clauses component]
  isDistinct_eq := by
    rw [effect.isDistinct_run, effect.isDistinct_run, h.isDistinct_eq]

theorem perform (h : q.Rearranged q') (calls : List Call) :
    (q.perform calls).Rearranged (q'.perform calls) := by
  induction calls generalizing q q' with
  | nil => exact h
  | cons call calls ih =>
    have hrun := h.run call.effect
    rw [← call.run_eq, ← call.run_eq] at hrun
    exact ih hrun

end Rearranged

/-- Effects on different components commute. -/
theorem Effect.run_comm {a b : Effect} (h : a.component? ≠ b.component?) (q : Query) :
    (b.run (a.run q)).Rearranged (a.run (b.run q)) where
  clauses := fun component => by
    simp only [clauses_run]
    by_cases ha : a.component? = some component
    · have hb : b.component? ≠ some component := fun hb => h (ha.trans hb.symm)
      rw [if_pos ha, if_neg hb, if_neg hb, if_pos ha]
    · rw [if_neg ha, if_neg ha]
  isDistinct_eq := by
    simp only [isDistinct_run, Bool.or_left_comm]

/-- Changes of the limit commute when their functions do. -/
theorem Effect.relimit_comm {f g : Limit → Limit} (h : ∀ l, f (g l) = g (f l)) (q : Query) :
    ((relimit f).run ((relimit g).run q)).Rearranged ((relimit g).run ((relimit f).run q)) where
  clauses := fun component => by
    have hupdate : ∀ cs, (relimit f).update ((relimit g).update cs) =
        (relimit g).update ((relimit f).update cs) :=
      fun cs => congrArg (fun l => [Clause.limit l]) (h _)
    rcases eq_or_ne component .limit with rfl | hne
    · simp only [clauses_run, component?, if_true, hupdate]
    · simp only [clauses_run, component?, Option.some.injEq, hne.symm, if_false]
  isDistinct_eq := rfl

theorem Call.run_comm {a b : Call} (h : a.component? ≠ b.component?) (q : Query) :
    (b.run (a.run q)).Rearranged (a.run (b.run q)) := by
  simp only [Call.run_eq]
  exact Effect.run_comm h q

theorem Call.offset_limit_comm (n m : UInt32) (q : Query) :
    ((offset m).run ((limit n).run q)).Rearranged ((limit n).run ((offset m).run q)) := by
  simp only [Call.run_eq]
  refine Effect.relimit_comm ?_ q
  exact fun _ => rfl

end Query

/-- A statement depends on the clauses of each component only, at each level of the tree, unless a
registered function looks at a nested query; the rules of the library do not. Swapping two adjacent
calls on different components, or a limit with an offset, gives a query that is alike and compiles
to the same statement or error, wherever in the building of a query they stand. -/
theorem compile_arrangement (c : Compiler) :
    (c.registry.Blind → ∀ q q' : Query, q.Reachable → q'.Reachable → q.Alike q' →
      (c.compile q).outcome = (c.compile q').outcome) ∧
    (∀ (q : Query) (a b : Query.Call) (after : List Query.Call),
      q.clauses.Reachable → a.component? ≠ b.component? →
      (q.perform (a :: b :: after)).Alike (q.perform (b :: a :: after)) ∧
      (c.compile (q.perform (a :: b :: after))).outcome =
        (c.compile (q.perform (b :: a :: after))).outcome) ∧
    (∀ (q : Query) (n m : UInt32) (after : List Query.Call), q.clauses.Reachable →
      (q.perform (.limit n :: .offset m :: after)).Alike
        (q.perform (.offset m :: .limit n :: after)) ∧
      (c.compile (q.perform (.limit n :: .offset m :: after))).outcome =
        (c.compile (q.perform (.offset m :: .limit n :: after))).outcome) := by
  have hsame : ∀ {q q' : Query}, q.clauses.Reachable → q'.clauses.Reachable → q.Rearranged q' →
      q.Alike q' ∧ (c.compile q).outcome = (c.compile q').outcome :=
    fun hq hq' h => ⟨h.alike, h.outcome_eq hq hq' c⟩
  refine ⟨fun hblind q q' hq hq' h => h.outcome_eq hblind hq hq', ?_, ?_⟩
  · intro q a b after hq hne
    exact hsame (Query.reachable_perform hq _) (Query.reachable_perform hq _)
      ((Query.Call.run_comm hne q).perform after)
  · intro q n m after hq
    exact hsame (Query.reachable_perform hq _) (Query.reachable_perform hq _)
      ((Query.Call.offset_limit_comm n m q).perform after)

/-- The condition and the source of a query are swapped, and so are the source and the deep join of
the query nested in the condition. -/
theorem compile_arrangement_sample :
    let inner := (Query.empty.fromTable "posts").deepJoin "author"
    let inner' := (Query.empty.deepJoin "author").fromTable "posts"
    let q := (Query.empty.whereCondition (.ofPredicate (.inQuery "id" inner))).fromTable "t"
    let q' := (Query.empty.fromTable "t").whereCondition (.ofPredicate (.inQuery "id" inner'))
    let c : Compiler := { dialect := .postgres }
    q.Reachable ∧ q'.Reachable ∧ q.Alike q' ∧ (c.compile q).outcome.isOk = true ∧
      (c.compile q).outcome = (c.compile q').outcome ∧
      (c.compile (q.perform [.orderBy "a", .distinct, .limit 3])).outcome =
        (c.compile (q.perform [.distinct, .orderBy "a", .limit 3])).outcome ∧
      (c.compile (q.perform [.limit 3, .offset 5])).outcome =
        (c.compile (q.perform [.offset 5, .limit 3])).outcome := by
  intro inner inner' q q' c
  have hinner : inner.Reachable := .push (.set .empty trivial) trivial
  have hinner' : inner'.Reachable := .set (.push .empty trivial) trivial
  have hq : q.Reachable := .set (.push .empty hinner) trivial
  have hq' : q'.Reachable := .push (.set .empty trivial) hinner'
  have hnested : inner.Alike inner' := by
    refine .intro (r := fun _ _ => False) (fun _ _ h => h.elim) rfl fun component => ?_
    cases component with
    | «from» => exact .cons ⟨.from (.table "posts" none), trivial, rfl, rfl⟩ .nil
    | deepJoin =>
      exact .cons ⟨.deepJoin ⟨"author", .inner, none, none, none, none⟩, trivial, rfl, rfl⟩ .nil
    | _ => exact .nil
  have halike : q.Alike q' := by
    refine .intro (r := fun p p' => p.Alike p') (fun _ _ h => h) rfl fun component => ?_
    cases component with
    | «from» => exact .cons ⟨.from (.table "t" none), trivial, rfl, rfl⟩ .nil
    | «where» =>
      exact .cons ⟨.where (.ofPredicate (.inQuery "id" (inner, inner'))), hnested, rfl, rfl⟩ .nil
    | _ => exact .nil
  have hstore := ((Query.throughout_iff _ q).mp hq).1
  refine ⟨hq, hq', halike, by decide +kernel, ?_, ?_, ?_⟩
  · exact (compile_arrangement c).1 Registry.blind_standard q q' hq hq' halike
  · exact ((compile_arrangement c).2.1 q (.orderBy "a") .distinct [.limit 3] hstore (by decide)).2
  · exact ((compile_arrangement c).2.2 q 3 5 [] hstore).2

end SqlSelect
