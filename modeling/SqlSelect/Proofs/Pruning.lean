import SqlSelect.Proofs.NestedActions
import SqlSelect.Proofs.Vacuity

/-!
# Queries without vacuous conditions

A query may hold vacuous conditions in its restrictions and in the conditions of its joins, and so
may the queries nested in it. `Query.prune` takes all of them out. Expansion does not look at them,
so a pruned query expands to the pruned expansion, and a writer that reads conditions does not see
the difference. A restriction is written exactly when a condition is left.
-/

namespace SqlSelect

variable {Q R α β : Type}

/-! ## Expansion of a part of a store -/

/-- The store with the entries that are kept. -/
def Store.filter (keep : Entry Q → Bool) (s : Store Q) : Store Q :=
  ⟨s.entries.filter keep, s.nextId⟩

theorem Store.entriesOf_filter {keep : Entry Q → Bool} {component : Component}
    (h : ∀ e : Entry Q, e.component = component → keep e = true) (s : Store Q) :
    (s.filter keep).entriesOf component = s.entriesOf component := by
  rw [entriesOf, entriesOf, filter, List.filter_filter]
  apply List.filter_congr
  intro e _
  by_cases he : e.component = component
  · simp [he, h e he]
  · simp [he]

theorem Store.clauses_filter {keep : Entry Q → Bool} {component : Component}
    (h : ∀ e : Entry Q, e.component = component → keep e = true) (s : Store Q) :
    (s.filter keep).clauses component = s.clauses component := by
  rw [clauses, clauses, entriesOf_filter h]

section Filter

variable {keep : Entry Q → Bool}

theorem Store.Ordered.erase_filter {s : Store Q} (h : s.Ordered) (id : Nat) :
    (s.filter keep).erase id = (s.erase id).filter keep := by
  have hfilter : (s.filter keep).Ordered := h.sublist List.filter_sublist
  have hentries : ((s.filter keep).erase id).entries = ((s.erase id).filter keep).entries := by
    rw [hfilter.entries_erase, Store.filter, Store.filter, h.entries_erase, List.filter_filter,
      List.filter_filter]
    simp only [Bool.and_comm]
  exact congrArg (Store.mk · s.nextId) hentries

variable (hjoin : ∀ e : Entry Q, e.component = .join → keep e = true)
include hjoin

theorem Store.addChain_filter (s : Store Q) (kind : JoinKind) (links : List Link) :
    (s.filter keep).addChain kind links = (s.addChain kind links).filter keep := by
  have hkeep : ∀ joins, (joinEntries s.nextId joins).filter keep = joinEntries s.nextId joins := by
    intro joins
    rw [List.filter_eq_self]
    exact fun e he => hjoin e (component_of_mem_joinEntries he)
  rw [addChain_eq, addChain_eq, filter, filter, List.filter_append, hkeep]

variable (hfrom : ∀ e : Entry Q, e.component = .from → keep e = true)
include hfrom

theorem Expander.expandEach_filter (x : Expander) {s : Store Q} (h : s.Ordered)
    (triggers : List (Nat × DeepJoin)) :
    x.expandEach (s.filter keep) triggers =
      ⟨(x.expandEach s triggers).store.filter keep, (x.expandEach s triggers).events,
        (x.expandEach s triggers).failure?⟩ := by
  induction triggers generalizing s with
  | nil => rfl
  | cons t ts ih =>
    obtain ⟨id, d⟩ := t
    have hroot : (s.filter keep).rootName? = s.rootName? := by
      rw [Store.rootName?, Store.rootName?, Store.getFirst?, Store.getFirst?,
        Store.clauses_filter hfrom]
    rw [expandEach, expandEach, x.chain_congr hroot]
    cases x.chain s d with
    | error e => rfl
    | ok links =>
      have hchain := h.addChain d.kind links
      simp only [Store.addChain_filter hjoin, hchain.erase_filter, ih (hchain.erase id)]

variable (hdeep : ∀ e : Entry Q, e.component = .deepJoin → keep e = true)
include hdeep

/-- Entries that expansion does not read may be dropped before it or after it. -/
theorem Compiler.expand_filter (c : Compiler) {s : Store Q} (h : s.Ordered) :
    c.expand (s.filter keep) =
      ⟨(c.expand s).store.filter keep, (c.expand s).events, (c.expand s).failure?⟩ := by
  have hexpander : c.expander.expand (s.filter keep) =
      ⟨(c.expander.expand s).store.filter keep, (c.expander.expand s).events,
        (c.expander.expand s).failure?⟩ := by
    rw [Expander.expand, Expander.expand, Store.deepJoins, Store.entriesOf_filter hdeep,
      ← Store.deepJoins]
    cases s.deepJoins with
    | error e => rfl
    | ok triggers => exact c.expander.expandEach_filter hjoin hfrom h triggers
  unfold Compiler.expand
  split
  · exact hexpander
  · rfl

end Filter

/-! ## Pruning a store -/

/-- The components of conditions. -/
def Component.isRestriction : Component → Bool
  | .where | .having => true
  | _ => false

def Join.prune (j : Join Q) : Join Q :=
  { j with on := Condition.pruneAll j.on }

/-- The clause without the vacuous conditions inside it. -/
def Clause.prune : Clause Q → Clause Q
  | .where c => .where c.prune
  | .having c => .having c.prune
  | .join j => .join j.prune
  | clause => clause

/-- The clause is a vacuous condition under the component it is made for. One under another
component is refused, so it is not without effect. -/
def Entry.isVacuous (e : Entry Q) : Bool :=
  e.clause.kind == e.component && e.clause.condition?.any Condition.isVacuous

/-- The store without vacuous conditions. -/
def Store.prune (s : Store Q) : Store Q :=
  (s.filter (!·.isVacuous)).mapClauses Clause.prune

/-- The query without vacuous conditions, in the nested queries either. -/
def Query.prune : Query → Query :=
  Query.fold fun s isDistinct => ⟨s.prune, isDistinct⟩

theorem Query.prune_eq (q : Query) :
    q.prune = ⟨(q.clauses.map Query.prune).prune, q.isDistinct⟩ :=
  Query.fold_eq _ q

/-- The operator `=` between two columns stays as it is. -/
theorem Clause.transparent_prune : Clause.Transparent (Clause.prune (Q := Q)) where
  kind_eq c := by cases c <;> rfl
  deepJoin_eq c := by cases c <;> rfl
  name_eq c := by cases c <;> rfl
  join_eq _ _ := rfl

theorem Clause.condition_prune (c : Clause Q) :
    c.prune.condition? = c.condition?.map Condition.prune := by
  cases c <;> rfl

theorem Clause.join_prune (c : Clause Q) : c.prune.join? = c.join?.map Join.prune := by
  cases c <;> rfl

theorem Clause.prune_map (f : Q → R) (c : Clause Q) : (c.map f).prune = c.prune.map f := by
  cases c with
  | join j =>
    obtain ⟨kind, table, on⟩ := j
    simp only [Clause.map, Clause.prune, Join.map, Join.prune, Condition.pruneAll_map]
  | «where» c => simp only [Clause.map, Clause.prune, Condition.prune_map]
  | having c => simp only [Clause.map, Clause.prune, Condition.prune_map]
  | _ => rfl

namespace Entry

/-- Only restrictions of rows and of groups are dropped. -/
theorem not_isVacuous {component : Component} (h : component.isRestriction = false) (e : Entry Q)
    (he : e.component = component) : (!e.isVacuous) = true := by
  subst he
  obtain ⟨id, component, clause⟩ := e
  rw [Bool.not_eq_true']
  cases clause with
  | «where» c =>
    have hne : Component.where ≠ component := by
      rintro rfl
      cases h
    simp [isVacuous, Clause.kind, hne]
  | having c =>
    have hne : Component.having ≠ component := by
      rintro rfl
      cases h
    simp [isVacuous, Clause.kind, hne]
  | _ => exact Bool.and_false _

theorem isVacuous_map (f : Q → R) (e : Entry Q) : (e.map f).isVacuous = e.isVacuous := by
  simp only [isVacuous, Entry.map, (Clause.transparent_map f).kind_eq, Clause.condition_map,
    Option.any_map, Condition.isVacuous_map]

/-- What the check of a component says about a clause under it. -/
theorem strictPayload_cases (e : Entry Q) :
    (∃ error, Store.strictPayload Clause.condition? e.component e.clause = .error error ∧
      e.isVacuous = false) ∨
    ∃ c, Store.strictPayload Clause.condition? e.component e.clause = .ok c ∧
      e.isVacuous = c.isVacuous := by
  rw [Store.strictPayload, isVacuous]
  cases e.clause.condition? with
  | none => exact Or.inl ⟨_, rfl, by simp⟩
  | some c =>
    by_cases hkind : e.clause.kind = e.component
    · exact Or.inr ⟨c, if_pos hkind, by simp [hkind]⟩
    · exact Or.inl ⟨_, if_neg hkind, by simp [hkind]⟩

end Entry

/-- A checked list may lose items before the check or results after it, if none that is refused is
lost. -/
theorem mapM_filter {ε : Type} {f : α → Except ε β} {keep : α → Bool} {keep' : β → Bool}
    {xs : List α} (h : ∀ x ∈ xs, (∃ e, f x = .error e ∧ keep x = true) ∨
      ∃ y, f x = .ok y ∧ keep x = keep' y) :
    (xs.filter keep).mapM f = (xs.mapM f).map (List.filter keep') := by
  induction xs with
  | nil => rfl
  | cons x xs ih =>
    rw [List.forall_mem_cons] at h
    rw [List.mapM_cons]
    obtain ⟨e, hx, hkeep⟩ | ⟨y, hx, hkeep⟩ := h.1
    · rw [List.filter_cons_of_pos hkeep, List.mapM_cons, hx]
      rfl
    · cases hy : keep' y with
      | true =>
        rw [List.filter_cons_of_pos (hkeep.trans hy), List.mapM_cons, hx, ih h.2]
        cases xs.mapM f with
        | error e => rfl
        | ok ys => exact congrArg Except.ok (List.filter_cons_of_pos hy).symm
      | false =>
        rw [List.filter_cons_of_neg (by simp [hkeep, hy]), hx, ih h.2]
        cases xs.mapM f with
        | error e => rfl
        | ok ys => exact congrArg Except.ok (List.filter_cons_of_neg (by simp [hy])).symm

namespace Store

theorem prune_map (f : Q → R) (s : Store Q) : (s.map f).prune = s.prune.map f := by
  have hkeep : (fun e : Entry R => !e.isVacuous) ∘ Entry.map f = fun e => !e.isVacuous :=
    funext fun e => by rw [Function.comp_apply, Entry.isVacuous_map]
  simp only [prune, map, filter, mapClauses, List.filter_map, List.map_map, hkeep]
  congr 2
  funext e
  exact congrArg (Entry.mk e.id e.component) (Clause.prune_map f e.clause)

section Others

variable {component : Component} (h : component.isRestriction = false)
include h

theorem clauses_prune (s : Store Q) :
    s.prune.clauses component = (s.clauses component).map Clause.prune := by
  rw [prune, clauses_mapClauses, clauses_filter (Entry.not_isVacuous h)]

theorem getStrict_prune {p? : Clause Q → Option α} {m : α → α}
    (hp : ∀ c, p? (Clause.prune c) = (p? c).map m) (s : Store Q) :
    s.prune.getStrict p? component = (s.getStrict p? component).map (List.map m) := by
  rw [prune, getStrict_mapClauses Clause.transparent_prune.kind_eq hp, getStrict, getStrict,
    clauses_filter (Entry.not_isVacuous h)]

/-- A component whose clauses hold no conditions is read as before, and what is misplaced under it
is refused as before. -/
theorem getStrict_prune_self {p? : Clause Q → Option α} {mk : α → Clause Q}
    (hmk : component.Payload p? mk) (hprune : ∀ a, (mk a).prune = mk a) (s : Store Q) :
    s.prune.getStrict p? component = s.getStrict p? component := by
  rw [getStrict, getStrict, clauses_prune h, List.mapM_map]
  congr 1
  funext clause
  by_cases hkind : clause.kind = component
  · obtain ⟨a, rfl, _⟩ := hmk.exists_eq hkind
    rw [Function.comp_apply, hprune]
  · have hpruned := Clause.transparent_prune.kind_eq clause
    rw [Function.comp_apply, strictPayload_of_kind_ne hkind,
      strictPayload_of_kind_ne (hpruned ▸ hkind), hpruned]

end Others

theorem has_prune (component : Component) (h : component.isRestriction = false) (s : Store Q) :
    s.prune.has component = s.has component := by
  rw [Bool.eq_iff_iff, has_eq_true_iff, has_eq_true_iff, clauses_prune h, ne_eq,
    List.map_eq_nil_iff]

/-- The conditions under a component lose the vacuous ones; what is refused still is. -/
theorem getStrict_filter_condition (s : Store Q) (component : Component) :
    (s.filter (!·.isVacuous)).getStrict Clause.condition? component =
      (s.getStrict Clause.condition? component).map (List.filter (!·.isVacuous)) := by
  have hcomm : (s.filter (!·.isVacuous)).entriesOf component =
      (s.entriesOf component).filter (!·.isVacuous) := by
    simp only [entriesOf, filter, List.filter_filter, Bool.and_comm]
  rw [getStrict, getStrict, clauses, clauses, hcomm, List.mapM_map, List.mapM_map]
  refine mapM_filter fun e he => ?_
  obtain ⟨_, rfl⟩ := mem_entriesOf.mp he
  obtain ⟨error, hread, hkept⟩ | ⟨c, hread, hkept⟩ := e.strictPayload_cases
  · exact Or.inl ⟨error, hread, by rw [hkept, Bool.not_false]⟩
  · exact Or.inr ⟨c, hread, by rw [hkept]⟩

theorem getStrict_prune_condition (s : Store Q) (component : Component) :
    s.prune.getStrict Clause.condition? component =
      (s.getStrict Clause.condition? component).map Condition.pruneAll := by
  rw [prune, getStrict_mapClauses Clause.transparent_prune.kind_eq Clause.condition_prune,
    getStrict_filter_condition]
  cases s.getStrict Clause.condition? component with
  | error e => rfl
  | ok conditions => exact congrArg Except.ok (Condition.pruneAll_eq conditions).symm

end Store

/-! ## Writing a pruned store -/

namespace Compiler

/-- Whether there is a condition at all need not be asked: without one nothing is written. -/
theorem writeWhere_eq (c : Compiler) (s : Store SubSelect) :
    c.writeWhere s = if s.has .from then (do
      let conditions ← payloads s Clause.condition? .where
      let sql ← c.writeConditions conditions
      return (nonEmpty? sql).map ("WHERE " ++ ·)) else pure none := by
  rw [writeWhere]
  cases hfrom : s.has .from with
  | false => rfl
  | true =>
    cases hwhere : s.has .where with
    | true => rfl
    | false =>
      have hnil : s.clauses .where = [] := (s.has_eq_false_iff .where).mp hwhere
      rw [payloads, Store.getStrict, hnil]
      rfl

theorem payloads_prune {component : Component} {p? : Clause SubSelect → Option α}
    {mk : α → Clause SubSelect} (hmk : component.Payload p? mk) (hprune : ∀ a, (mk a).prune = mk a)
    (h : component.isRestriction = false) (s : Store SubSelect) :
    payloads s.prune p? component = payloads s p? component := by
  rw [payloads, payloads, Store.getStrict_prune_self h hmk hprune]

theorem payloads_prune_condition (s : Store SubSelect) (component : Component) :
    payloads s.prune Clause.condition? component =
      Condition.pruneAll <$> payloads s Clause.condition? component := by
  rw [payloads, payloads, Store.getStrict_prune_condition, ofExcept_map]

section Standard

variable {c : Compiler} (hr : c.registry = .standard)
include hr

theorem writeJoin_prune (j : Join SubSelect) : c.writeJoin j.prune = c.writeJoin j := by
  rw [writeJoin, writeJoin, Join.prune, writeConditions_pruneAll hr]

theorem writeJoins_prune (s : Store SubSelect) : c.writeJoins s.prune = c.writeJoins s := by
  rw [writeJoins, writeJoins, payloads, payloads, Store.getStrict_prune rfl Clause.join_prune,
    ofExcept_map, bind_map_left]
  simp only [List.mapM_map, Function.comp_def, writeJoin_prune hr]

theorem writeWhere_prune (s : Store SubSelect) : c.writeWhere s.prune = c.writeWhere s := by
  rw [writeWhere_eq, writeWhere_eq, Store.has_prune .from rfl, payloads_prune_condition,
    bind_map_left]
  simp only [writeConditions_pruneAll hr]

theorem writeHavings_prune (s : Store SubSelect) : c.writeHavings s.prune = c.writeHavings s := by
  rw [writeHavings, writeHavings, payloads_prune_condition, bind_map_left]
  simp only [writeTerms_pruneAll hr]

theorem writeSelect_prune (s : Store SubSelect) (isDistinct : Bool) :
    c.writeSelect s.prune isDistinct = c.writeSelect s isDistinct := by
  have hfragments : c.fragments s.prune isDistinct = c.fragments s isDistinct := by
    simp only [fragments, writeJoins_prune hr, writeWhere_prune hr, writeHavings_prune hr,
      writeAggregate, writeProjection, writeFrom, writeGroups, writeOrders, writeLimit, writeOffset,
      writeSetOperations, writeCombines, writeLock, firstPayload?,
      Store.has_prune .aggregate rfl,
      payloads_prune .aggregate (fun _ => rfl) rfl, payloads_prune .select (fun _ => rfl) rfl,
      payloads_prune .from (fun _ => rfl) rfl, payloads_prune .group (fun _ => rfl) rfl,
      payloads_prune .order (fun _ => rfl) rfl, payloads_prune .limit (fun _ => rfl) rfl,
      payloads_prune .union (fun _ => rfl) rfl, payloads_prune .lock (fun _ => rfl) rfl]
  rw [writeSelect, writeSelect, hfragments]

/-! ## Query trees -/

omit hr in
theorem expand_prune (c : Compiler) {s : Store Q} (h : s.Ordered) :
    c.expand s.prune =
      ⟨(c.expand s).store.prune, (c.expand s).events, (c.expand s).failure?⟩ := by
  rw [Store.prune, Compiler.expand_mapClauses Clause.transparent_prune,
    expand_filter (Entry.not_isVacuous rfl) (Entry.not_isVacuous rfl) (Entry.not_isVacuous rfl) c h]
  rfl

theorem writeExpanded_prune {s : Store SubSelect} (h : s.Ordered) (isDistinct : Bool) :
    c.writeExpanded s.prune isDistinct = c.writeExpanded s isDistinct := by
  simp only [writeExpanded, expand_prune c h, writeSelect_prune hr]

/-- A nested query without its vacuous conditions is written by the same action. -/
theorem subselect_prune (q : Query) (h : q.Reachable) : c.subselect q.prune = c.subselect q := by
  have hblind : c.registry.Blind := hr ▸ Registry.blind_standard
  induction q using Query.induction with
  | step q ih =>
    obtain ⟨hstore, hnested⟩ := (Query.throughout_iff _ q).mp h
    rw [subselect_eq_writeExpanded, subselect_eq_writeExpanded, Query.prune_eq]
    dsimp only
    have hbare : (q.clauses.map (c.prepare ∘ Query.prune)).map SubSelect.bare =
        (q.clauses.map c.prepare).map SubSelect.bare := Store.map_bare_congr (ih.mp hnested)
    rw [← Store.prune_map, Store.map_map, writeExpanded_prune hr (hstore.ordered.map _),
      ← writeExpanded_bare hblind, hbare, writeExpanded_bare hblind]

/-- The same for a query by itself. -/
theorem select_prune {q : Query} (h : q.clauses.Meets .any Query.Reachable) :
    c.select q.prune = c.select q := by
  have hblind : c.registry.Blind := hr ▸ Registry.blind_standard
  have hbare : (q.clauses.map (c.prepare ∘ Query.prune)).map SubSelect.bare =
      (q.clauses.map c.prepare).map SubSelect.bare :=
    Store.map_bare_congr (h.mono (subselect_prune hr))
  rw [select, select, Query.prune_eq, ← Store.prune_map, Store.map_map, writeSelect_prune hr,
    ← writeSelect_bare hblind, hbare, writeSelect_bare hblind]

theorem conditions_prune {items : List (Condition Query)}
    (h : ∀ item ∈ items, item.Meets .any Query.Reachable) :
    c.conditions (Condition.pruneAll (items.map (Condition.map Query.prune))) =
      c.conditions items := by
  have hblind : c.registry.Blind := hr ▸ Registry.blind_standard
  have hbare : (items.map (Condition.map (c.prepare ∘ Query.prune))).map
        (Condition.map SubSelect.bare) =
      (items.map (Condition.map c.prepare)).map (Condition.map SubSelect.bare) := by
    rw [List.map_map, List.map_map]
    refine List.map_congr_left fun item hitem => Condition.map_bare_congr ?_
    have hitem : (Clause.where item).Meets .any Query.Reachable := h item hitem
    exact (Clause.meets_any (subselect_prune hr) (.where item)).mp hitem
  have hmap : (Condition.map c.prepare) ∘ Condition.map Query.prune =
      Condition.map (c.prepare ∘ Query.prune) := funext fun item => Condition.map_map _ _ item
  rw [conditions, conditions, ← Condition.pruneAll_map, writeConditions_pruneAll hr, List.map_map,
    hmap, ← writeConditions_bare hblind, hbare, writeConditions_bare hblind]

/-! ## The restriction of a statement -/

/-- With a source, a restriction is written when some condition is not vacuous. -/
theorem yields_where {s : Store SubSelect} (hfrom : s.has .from = true) :
    Yields (c.writeWhere s) fun restriction? =>
      (restriction?.isSome = true ↔
        ∃ item ∈ s.get Clause.condition? .where, item.isVacuous = false) ∧
      ∀ fragment, restriction? = some fragment → ∃ sql, sql ≠ "" ∧ fragment = "WHERE " ++ sql := by
  have hread : Yields (payloads s Clause.condition? .where)
      (· = s.get Clause.condition? .where) :=
    fun _ _ _ hrun => Store.get_of_getStrict (payloads_eq_ok hrun)
  rw [writeWhere_eq, if_pos hfrom]
  refine hread.bind fun items hitems => ?_
  subst hitems
  refine (yields_conditions_iff hr _).map fun sql hsql => ?_
  rw [← Condition.allVacuous_eq_false_iff, ← Bool.not_eq_true, ← hsql, nonEmpty?]
  by_cases hempty : sql = ""
  · simp [hempty]
  · rw [if_neg (mt String.isEmpty_iff.mp hempty)]
    refine ⟨by simp [hempty], ?_⟩
    rintro _ ⟨⟩
    exact ⟨sql, hempty, rfl⟩

end Standard

end Compiler

/-- What is returned at a position was returned by the action there. -/
theorem getElem?_of_mapM {ms : List (CompileM α)} {as : List α} {ctx ctx' : Context}
    (h : ms.mapM id ctx = .ok as ctx') {i : Nat} {m : CompileM α} (hm : ms[i]? = some m) :
    ∃ a mid mid', as[i]? = some a ∧ m mid = .ok a mid' := by
  induction ms generalizing as ctx i with
  | nil => cases hm
  | cons m' ms ih =>
    rw [List.mapM_cons] at h
    obtain ⟨a, mid, ha, hrest⟩ := bind_eq_ok h
    obtain ⟨others, mid', hothers, hlist⟩ := bind_eq_ok hrest
    cases hlist
    cases i with
    | zero =>
      cases hm
      exact ⟨a, ctx, mid, rfl, ha⟩
    | succ i => exact ih hothers hm

/-- A joined text contains its parts. -/
theorem exists_intercalate_eq {separator s : String} {ss : List String} (h : s ∈ ss) :
    ∃ before after, separator.intercalate ss = before ++ s ++ after := by
  induction ss with
  | nil => cases h
  | cons t ss ih =>
    cases ss with
    | nil =>
      obtain rfl := List.mem_singleton.mp h
      exact ⟨"", "", by simp⟩
    | cons u ss =>
      rw [String.intercalate_cons_cons]
      rcases List.mem_cons.mp h with rfl | h
      · exact ⟨"", separator ++ separator.intercalate (u :: ss), by simp [String.append_assoc]⟩
      · obtain ⟨before, after, heq⟩ := ih h
        exact ⟨t ++ separator ++ before, after, by rw [heq]; simp only [String.append_assoc]⟩

theorem exists_joinFragments_eq {fragments : List (Option String)} {s : String}
    (hmem : some s ∈ fragments) (hne : Text.trim s ≠ "") :
    ∃ before after, joinFragments fragments = before ++ Text.trim s ++ after := by
  refine exists_intercalate_eq (List.mem_filter.mpr ⟨?_, by simpa using hne⟩)
  exact List.mem_map_of_mem (List.mem_filterMap.mpr ⟨_, hmem, rfl⟩)

/-- Vacuous conditions are those without text, and they bind nothing. Conditions are written alike
without them, to the same text with the same values or to the same error, whether they are taken
out at every depth of a list or also in the queries nested in it, and a query is written alike. Of a
query with a source, the restriction is the fifth fragment: it is there exactly when a condition is
not vacuous, and then the statement contains it. -/
theorem vacuous_conditions_inert {c : Compiler} (hr : c.registry = .standard) :
    (∀ item ctx text ctx', c.condition item ctx = .ok text ctx' →
      (text = "" ↔ item.isVacuous = true)) ∧
    (∀ item, item.isVacuous = true → c.condition item = pure "") ∧
    (∀ items, c.conditions (Condition.pruneAll items) = c.conditions items ∧
      ∀ item : Condition Query, item.Occurs (Condition.pruneAll items) → item.isVacuous = false) ∧
    (∀ items : List (Condition Query), (∀ item ∈ items, item.Meets .any Query.Reachable) →
      c.conditions (Condition.pruneAll (items.map (Condition.map Query.prune))) =
        c.conditions items) ∧
    (∀ q : Query, q.clauses.Meets .any Query.Reachable → c.select q.prune = c.select q) ∧
    ∀ (q : Query) ctx text ctx', q.clauses.has .from = true → c.select q ctx = .ok text ctx' →
      ∃ fragments restriction?,
        (c.fragments (q.clauses.map c.prepare) q.isDistinct).mapM id ctx = .ok fragments ctx' ∧
        text = joinFragments fragments ∧ fragments[4]? = some restriction? ∧
        (restriction?.isSome = true ↔
          ∃ item ∈ q.clauses.get Clause.condition? .where, item.isVacuous = false) ∧
        ∀ fragment, restriction? = some fragment → ∃ sql before after, sql ≠ "" ∧
          fragment = "WHERE " ++ sql ∧ text = before ++ Text.trim fragment ++ after := by
  refine ⟨fun item ctx text ctx' hrun => ?_, fun item hvacuous => ?_, fun items => ⟨?_, ?_⟩,
    fun items => Compiler.conditions_prune hr, fun q => Compiler.select_prune hr,
    fun q ctx text ctx' hfrom hrun => ?_⟩
  · rw [← Condition.isVacuous_map c.prepare]
    exact Compiler.yields_condition_iff hr _ ctx text ctx' hrun
  · rw [← Condition.isVacuous_map c.prepare] at hvacuous
    exact Compiler.writeCondition_of_isVacuous hr _ hvacuous
  · rw [Compiler.conditions, ← Condition.pruneAll_map, Compiler.writeConditions_pruneAll hr,
      Compiler.conditions]
  · exact fun item => Condition.Occurs.isVacuous_eq_false
  · obtain ⟨fragments, mid, hfragments, htext⟩ := bind_eq_ok hrun
    cases htext
    obtain ⟨restriction?, before, after, hat, hwhere⟩ := getElem?_of_mapM hfragments (i := 4) rfl
    have hs : (q.clauses.map c.prepare).has .from = true := by rw [Store.has_map, hfrom]
    obtain ⟨hsome, hword⟩ := Compiler.yields_where hr hs _ _ _ hwhere
    refine ⟨fragments, restriction?, hfragments, rfl, hat, ?_, ?_⟩
    · rw [hsome, Store.get_map (Clause.condition_map _)]
      simp [Condition.isVacuous_map]
    · rintro fragment rfl
      obtain ⟨sql, hne, rfl⟩ := hword fragment rfl
      have htrim : Text.trim ("WHERE " ++ sql) ≠ "" :=
        Text.trim_append_ne ⟨'W', _, rfl, by decide⟩ sql
      obtain ⟨before, after, heq⟩ :=
        exists_joinFragments_eq (List.mem_of_getElem? hat) htrim
      exact ⟨sql, before, after, hne, rfl, heq⟩

/-- A negated group with an empty group inside is dropped beside a negated group that is kept. -/
theorem vacuous_conditions_inert_sample :
    let c : Compiler := { dialect := .postgres }
    let blank : Condition Query := ⟨false, false, .raw ⟨"", []⟩⟩
    let vacuous : Condition Query := ⟨true, true, .group [blank, ⟨true, true, .group []⟩]⟩
    let equal : Condition Query := .compare "a" "=" (.int 1)
    let kept : Condition Query := ⟨true, true, .group [vacuous, equal]⟩
    let q := ((Query.empty.fromTable "t").whereCondition vacuous).whereCondition kept
    c.condition vacuous = pure "" ∧
      c.conditions [vacuous, kept] = c.conditions [⟨true, true, .group [equal]⟩] ∧
      ∃ text ctx fragments fragment, c.select q {} = .ok text ctx ∧
        text = "SELECT * FROM \"t\" WHERE NOT (\"a\" = ?)" ∧
        text = joinFragments fragments ∧ fragments[4]? = some (some fragment) := by
  intro c blank vacuous equal kept q
  obtain ⟨_, hvacuous, hpruned, _, _, hrestriction⟩ :=
    vacuous_conditions_inert (rfl : c.registry = .standard)
  have hselect : ∃ text ctx, c.select q {} = .ok text ctx ∧
      text = "SELECT * FROM \"t\" WHERE NOT (\"a\" = ?)" := ⟨_, _, rfl, by decide +kernel⟩
  obtain ⟨text, ctx, hselect, htext⟩ := hselect
  obtain ⟨fragments, restriction?, _, hjoin, hat, hsome, _⟩ :=
    hrestriction q {} text ctx rfl hselect
  have hkept : kept ∈ q.clauses.get Clause.condition? .where :=
    List.mem_cons_of_mem vacuous List.mem_cons_self
  obtain ⟨fragment, rfl⟩ := Option.isSome_iff_exists.mp (hsome.mpr ⟨kept, hkept, rfl⟩)
  exact ⟨hvacuous vacuous rfl, (hpruned [vacuous, kept]).1.symm, text, ctx, fragments, fragment,
    hselect, htext, hjoin, hat⟩

end SqlSelect
