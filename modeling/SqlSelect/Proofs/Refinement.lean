import SqlSelect.Proofs.Payload
import SqlSelect.Proofs.Tracking

/-!
# The compiler against an assembly

Whatever relation tracks an assembly, the compiler's text and values are in that relation to the
query as it is assembled. The proof follows the writers: each is given nested queries for which the
relation holds already and passes it on, and the induction over the query tree supplies those.
-/

namespace SqlSelect

open Placeholder

theorem Registry.resolve_of_find {r : Registry} {tag : String} {handler : Handler}
    (h : r.find? tag = some handler) : r.resolve tag = .ok handler := by
  rw [resolve, h]

theorem Registry.resolve_standard (form : PredicateForm) :
    Registry.standard.resolve form.tag = .ok (.standard form) := by
  cases form <;> rfl

theorem Registry.resolve_standard_eq (tag : String) :
    Registry.standard.resolve tag =
      match PredicateForm.ofTag? tag with
      | some form => .ok (.standard form)
      | none => .error (.unresolvedHandler tag) := by
  cases h : PredicateForm.ofTag? tag with
  | some form =>
    have htag : form.tag = tag := by simpa using List.find?_some h
    rw [← htag, resolve_standard]
  | none =>
    have hnone : Registry.standard.find? tag = none := by
      rw [find?, List.lookup_eq_none_iff]
      intro p hp
      obtain ⟨form, hform, rfl⟩ := List.mem_map.mp hp
      have hne : ¬(form.tag == tag) = true := List.find?_eq_none.mp h form hform
      rw [bne_iff_ne]
      intro htag
      exact hne (beq_iff_eq.mpr htag.symm)
    rw [resolve, hnone]

/-- The library registers no function. -/
theorem Registry.eq_standard_of_find {tag : String} {handler : Handler}
    (h : Registry.standard.find? tag = some handler) : ∃ form, handler = .standard form := by
  have hresolve := resolve_standard_eq tag
  rw [resolve_of_find h] at hresolve
  cases hform : PredicateForm.ofTag? tag with
  | none =>
    rw [hform] at hresolve
    cases hresolve
  | some form =>
    rw [hform] at hresolve
    exact ⟨form, Except.ok.inj hresolve⟩

/-- Why a custom predicate is refused: the library's rule for its tag, if there is one, is for
predicates of another form. -/
def customFault (tag : String) : CompileError :=
  if (PredicateForm.ofTag? tag).isSome then .invalidClause "condition" "custom"
  else .unresolvedHandler tag

theorem ofExcept_map {α β : Type} (g : α → β) (r : Except CompileError α) :
    CompileM.ofExcept (r.map g) = g <$> CompileM.ofExcept r := by
  cases r <;> rfl

namespace Compiler

variable {c : Compiler}

theorem writeCondition_eq (condition : Condition SubSelect) :
    c.writeCondition condition =
      match c.registry.resolve condition.predicate.tag with
      | .error e => throw e
      | .ok (.custom write) => write c.dialect condition
      | .ok (.standard form) => c.writePredicate form condition.negated condition.predicate := by
  obtain ⟨byOr, negated, p⟩ := condition
  cases hresolve : c.registry.resolve p.tag with
  | error e => simp only [writeCondition, hresolve]
  | ok handler => cases handler <;> simp only [writeCondition, hresolve]

/-- The payloads of a component whose nested queries are replaced. -/
theorem payloads_map {Q α β : Type} {f : Q → SubSelect} {p? : Clause Q → Option α}
    {p?' : Clause SubSelect → Option β} {m : α → β}
    (hp : ∀ clause, p?' (Clause.map f clause) = (p? clause).map m) (s : Store Q)
    (component : Component) :
    payloads (s.map f) p?' component =
      List.map m <$> CompileM.ofExcept (s.getStrict p? component) := by
  rw [payloads, ← ofExcept_map]
  exact congrArg _ (Store.getStrict_mapClauses (Clause.transparent_map f).kind_eq hp s component)

section Conditions

variable {Q : Type} (hr : c.registry = .standard)
include hr

theorem writeCondition_standard {form : PredicateForm} {p : Predicate SubSelect}
    (hp : p.form? = some form) (byOr negated : Bool) :
    c.writeCondition ⟨byOr, negated, p⟩ = c.writePredicate form negated p := by
  have htag : p.tag = form.tag := by cases p <;> cases hp <;> rfl
  rw [writeCondition, hr, htag, Registry.resolve_standard]

theorem writeCondition_map {p : Predicate Q} {form : PredicateForm} (hp : p.form? = some form)
    (f : Q → SubSelect) (byOr negated : Bool) :
    c.writeCondition ⟨byOr, negated, p.map f⟩ = c.writePredicate form negated (p.map f) := by
  exact writeCondition_standard hr (p.form_map.trans hp) byOr negated

theorem writeCondition_custom (byOr negated : Bool) (tag column : String) (values : List Value) :
    c.writeCondition ⟨byOr, negated, .custom tag column values⟩ = throw (customFault tag) := by
  rw [writeCondition, hr, Predicate.tag, Registry.resolve_standard_eq, customFault]
  cases PredicateForm.ofTag? tag with
  | none => rfl
  | some form => cases form <;> rfl

end Conditions

/-- A rule of the library refuses a predicate of another form. -/
theorem writePredicate_of_ne {form : PredicateForm} {p : Predicate SubSelect}
    (h : p.form? ≠ some form) (negated : Bool) :
    c.writePredicate form negated p = throw (.invalidClause "condition" p.kind) := by
  unfold writePredicate
  split
  iterate 10 · exact absurd rfl h
  · rfl

/-- A nested query that is ready to be written is the query with its action. -/
theorem prepare_eq (q : Query) : c.prepare q = ⟨q, c.subselect q⟩ := by
  have hquery : (c.prepare q).query = q := by
    induction q using Query.induction with
    | step q ih =>
      have hnested : q.clauses.map (SubSelect.query ∘ c.prepare) = q.clauses.map id :=
        Store.map_congr ih
      rw [prepare, Query.fold_eq, ← prepare]
      dsimp only
      rw [Store.map_map, hnested, Store.map_id]
      cases q
      rfl
  exact congrArg (SubSelect.mk · (c.subselect q)) hquery

theorem subselect_eq_writeExpanded (q : Query) :
    c.subselect q = c.writeExpanded (q.clauses.map c.prepare) q.isDistinct := by
  rw [subselect, prepare, Query.fold_eq, ← prepare]

/-- A nested query is written after its deep joins have been expanded. -/
theorem subselect_eq (q : Query) :
    c.subselect q = (do
      CompileM.record (c.expand q.clauses).events
      match (c.expand q.clauses).failure? with
      | some e => throw e
      | none => c.select ⟨(c.expand q.clauses).store, q.isDistinct⟩) := by
  rw [subselect_eq_writeExpanded, writeExpanded, expand_map]
  rfl

theorem query_compile (q : Query) :
    (c.compile q).query = ⟨(c.expand q.clauses).store, q.isDistinct⟩ := by
  simp only [compile]
  split
  · rfl
  · split <;> rfl

theorem outcome_compile (q : Query) :
    (c.compile q).outcome =
      match (c.expand q.clauses).failure? with
      | some e => .error e
      | none =>
        match c.select ⟨(c.expand q.clauses).store, q.isDistinct⟩ {} with
        | .error e _ => .error e
        | .ok text ctx => .ok ⟨c.dialect.finish text ctx.bindings, ctx.bindings⟩ := by
  simp only [compile]
  cases (c.expand q.clauses).failure? with
  | some e => rfl
  | none => cases c.select ⟨(c.expand q.clauses).store, q.isDistinct⟩ {} <;> rfl

/-- A statement is the text of the query that compiling leaves, finished by the dialect. -/
theorem select_of_compile {q : Query} {r : Statement} (h : (c.compile q).outcome = .ok r) :
    ∃ text ctx, c.select (c.compile q).query {} = .ok text ctx ∧
      r = ⟨c.dialect.finish text ctx.bindings, ctx.bindings⟩ := by
  rw [query_compile]
  rw [outcome_compile] at h
  split at h
  · cases h
  · split at h
    · cases h
    · rename_i text ctx hselect
      cases h
      exact ⟨text, ctx, hselect, rfl⟩

end Compiler

theorem inert_notWord (negated : Bool) : Inert (notWord negated) := by
  cases negated <;> decide

namespace Dialect

variable {d : Dialect} (hd : d ∈ builtin)
include hd

theorem inert_name (name : String) : Inert (d.wrap name) :=
  inert_wrap (quotesNames_of_builtin hd) name

/-- A name and the words of a predicate after it. -/
theorem inert_predicate (column : String) (negated : Bool) {s t : String} (hs : Inert s)
    (ht : Inert t) : Inert (d.wrap column ++ s ++ notWord negated ++ t) :=
  (((inert_name hd column).append hs).append (inert_notWord negated)).append ht

theorem inert_lock {lock : Lock} {s : String} (h : d.lock? lock = some s) : Inert s := by
  simp only [builtin, List.mem_cons, List.not_mem_nil, or_false] at hd
  have hsql : ∀ lock : Lock, Inert lock.sql := by
    rintro ⟨strength, nowait⟩
    cases strength <;> cases nowait <;> decide
  rcases hd with rfl | rfl | rfl | rfl
  · cases h
  · cases h
    exact hsql lock
  · cases h
    exact hsql lock
  · cases h

omit hd in
theorem mem_builtin (h : d ∈ [generic, mysql, sqlite]) : d ∈ builtin := by
  simp only [builtin, List.mem_cons, List.not_mem_nil, or_false] at h ⊢
  rcases h with h | h | h <;> simp [h]

omit hd in
theorem random_cases (h : d ∈ [generic, mysql, sqlite]) (seed? : Option String) :
    d.random seed? = "RANDOM()" ∨ d.random seed? = "RAND(" ++ seed?.getD "" ++ ")" := by
  simp only [List.mem_cons, List.not_mem_nil, or_false] at h
  rcases h with rfl | rfl | rfl
  · exact Or.inl rfl
  · exact Or.inr rfl
  · exact Or.inl rfl

omit hd in
/-- Only one dialect changes the text of a statement at the end. -/
theorem finish_eq (h : d ∈ [generic, mysql, sqlite]) (text : String) (bindings : Array Value) :
    d.finish text bindings = text := by
  simp only [List.mem_cons, List.not_mem_nil, or_false] at h
  rcases h with rfl | rfl | rfl <;> rfl

end Dialect

namespace Tracks

variable {A : Type} [Append A] {c : Compiler} {P : Policy} {w : Assembly A}
  {R : String → List Value → A → Prop} (T : Tracks c.dialect P w R)
  (hd : c.dialect ∈ Dialect.builtin) (hr : c.registry = .standard)
  {Q : Type} {f : Q → SubSelect} {g : Q → A}

/-! ## Conditions -/

section Conditions

include T hd in
/-- A name, a copied operator and the blanks around it. -/
theorem comparison (column : String) {operator : String} (h : P.operator operator) :
    R (c.dialect.wrap column ++ " " ++ operator ++ " ") []
      (w.text (c.dialect.wrap column ++ " ") ++ w.text operator ++ w.text " ") := by
  have hname := T.text ((Dialect.inert_name hd column).append (b := " ") (by decide))
  exact T.follow (T.lead hname (T.operator h)) (by decide) (by decide)

include T in
theorem emits_value (v : Value) :
    Emits (CompileM.bindValue v) fun t vs => R t vs (w.value v) :=
  Emits.bindValue (T.value v)

omit [Append A] in
include hr in
theorem emits_of_form {p : Predicate Q} {form : PredicateForm} (hp : p.form? = some form)
    {byOr negated : Bool} {P' : String → List Value → Prop}
    (h : Emits (c.writePredicate form negated (p.map f)) P') :
    Emits (c.writeCondition ⟨byOr, negated, p.map f⟩) P' := by
  rw [Compiler.writeCondition_map hr hp]
  exact h

-- only the first theorem of the block uses all of them
set_option linter.unusedSectionVars false

include T hd hr

mutual

theorem emits_condition (byOr negated : Bool) : ∀ p : Predicate Q,
    p.Meets P (fun q => Emits (f q).write fun t vs => R t vs (g q)) →
    Emits (c.writeCondition ⟨byOr, negated, p.map f⟩) fun t vs =>
      R t vs (w.predicate c.dialect negated (p.map g))
  | .compare column operator value, h => by
    refine emits_of_form hr rfl ?_
    refine Emits.map (Emits.bindValue ?_)
    exact T.negate negated (T.lead (T.comparison hd column h) (T.value value))
  | .text column kind value true, _ => by
    refine emits_of_form hr rfl ?_
    refine Emits.map (Emits.bindValue (T.negate negated ?_))
    exact T.lead (T.text ((Dialect.inert_name hd column).append (by decide))) (T.value _)
  | .text column kind value false, _ => by
    refine emits_of_form hr rfl ?_
    refine Emits.map (Emits.bindValue (T.negate negated ?_))
    have hlower : Inert (c.dialect.lower (c.dialect.wrap column)) :=
      (Inert.append (by decide) (Dialect.inert_name hd column)).append (by decide)
    exact T.lead (T.text (hlower.append (by decide))) (T.value _)
  | .compareColumns first operator second, h => by
    refine emits_of_form hr rfl ?_
    refine Emits.pure (T.negate negated ?_)
    exact T.lead (T.comparison hd first h) (T.text (Dialect.inert_name hd second))
  | .group items, h => by
    refine emits_of_form hr rfl ?_
    refine Emits.map ((emits_terms items h).mono fun ts vs hts => ?_)
    have hinner := T.joinTerms hts
    simp only [Predicate.map, Assembly.predicate, T.isEmpty_eq hinner]
    split
    · rename_i hempty
      rw [T.values_of_isEmpty hinner hempty]
      exact T.text Inert.empty
    · exact T.enclose ((inert_notWord negated).append (by decide)) hinner (by decide) (by decide)
  | .raw fragment, h => by
    refine emits_of_form hr rfl ?_
    exact Emits.map (Emits.fragment fun hcount => T.negate negated (T.fragment h hcount))
  | .isNull column, _ => by
    refine emits_of_form hr rfl ?_
    exact Emits.pure (T.text (Dialect.inert_predicate hd column negated (by decide) (by decide)))
  | .between column lower upper, _ => by
    refine emits_of_form hr rfl ?_
    refine Emits.bind (T.emits_value lower) fun low vs hlow => ?_
    refine Emits.map (Emits.bindValue ?_)
    have hwords := Dialect.inert_predicate hd column negated (s := " ") (t := "BETWEEN ")
      (by decide) (by decide)
    have hlower := T.enclose hwords hlow (u := " AND ") (by decide) (by decide)
    exact T.append hlower (T.value upper) (Or.inr (by decide))
  | .oneOf column [], _ => by
    refine emits_of_form hr rfl ?_
    exact Emits.pure (T.text (by cases negated <;> decide))
  | .oneOf column (v :: values), _ => by
    have hvalues : List.Forall₂ (fun v a => Emits (CompileM.bindValue v) fun t vs => R t vs a)
        (v :: values) ((v :: values).map w.value) := by
      rw [List.forall₂_map_right_iff, List.forall₂_same]
      exact fun v _ => T.emits_value v
    refine emits_of_form hr rfl ?_
    refine Emits.map ((Emits.mapM hvalues).mono fun marks ws hmarks => ?_)
    have hwords := Dialect.inert_predicate hd column negated (s := " ") (t := "IN (")
      (by decide) (by decide)
    exact T.enclose hwords (T.join (by decide) (by decide) (by decide) hmarks) (by decide)
      (by decide)
  | .inQuery column q, h => by
    rw [Predicate.Meets] at h
    refine emits_of_form hr rfl ?_
    refine Emits.map (h.mono fun sub vs hsub => ?_)
    have hwords := Dialect.inert_predicate hd column negated (s := " ") (t := "IN (")
      (by decide) (by decide)
    exact T.enclose hwords hsub (by decide) (by decide)
  | .existsQuery q, h => by
    rw [Predicate.Meets] at h
    refine emits_of_form hr rfl ?_
    refine Emits.map (h.mono fun sub vs hsub => ?_)
    exact T.enclose ((inert_notWord negated).append (by decide)) hsub (by decide) (by decide)
  | .custom tag column values, _ => by
    rw [Predicate.map, Compiler.writeCondition_custom hr]
    exact Emits.throw

theorem emits_terms : ∀ items : List (Condition Q),
    Condition.MeetsAll P (fun q => Emits (f q).write fun t vs => R t vs (g q)) items →
    Emits (c.writeTerms (Condition.mapList f items)) fun ts vs =>
      EmittedList (TermRel R) ts vs (w.terms c.dialect (Condition.mapList g items))
  | [], _ => Emits.pure EmittedList.nil
  | ⟨byOr, negated, p⟩ :: items, h => by
    simp only [Condition.MeetsAll] at h
    rw [Condition.mapList, Condition.mapList, Compiler.writeTerms]
    refine Emits.bind (emits_condition byOr negated p h.1) fun sql vs hsql => ?_
    refine Emits.map ((emits_terms items h.2).mono fun ts ws hts => ?_)
    simp only [Condition.map, Assembly.terms, T.isEmpty_eq hsql]
    split
    · rename_i hempty
      rw [T.values_of_isEmpty hsql hempty]
      exact hts
    · exact EmittedList.cons ⟨rfl, hsql⟩ hts

end

theorem emits_conditions {items : List (Condition Q)}
    (h : Condition.MeetsAll P (fun q => Emits (f q).write fun t vs => R t vs (g q)) items) :
    Emits (c.writeConditions (items.map (Condition.map f))) fun t vs =>
      R t vs (w.conditions c.dialect (items.map (Condition.map g))) := by
  have hterms := emits_terms T hd hr items h
  rw [Condition.mapList_eq_map, Condition.mapList_eq_map] at hterms
  exact Emits.map (hterms.mono fun _ _ => T.joinTerms)

end Conditions

/-! ## Sources and columns -/

section Items

include T hd

/-- A nested query in parentheses with its label. -/
theorem labelled {sub : String} {vs : List Value} {a : A} (h : R sub vs a) (label : String) :
    R ("(" ++ sub ++ ") AS " ++ c.dialect.wrapSegment label) vs
      (w.text "(" ++ a ++ w.text (") AS " ++ c.dialect.wrapSegment label)) := by
  have hlabel : Inert (") AS " ++ c.dialect.wrapSegment label) :=
    Inert.append (by decide) (Dialect.inert_wrapSegment (Dialect.quotesNames_of_builtin hd) label)
  have hplain : StartsPlain (") AS " ++ c.dialect.wrapSegment label) :=
    StartsPlain.append (by decide) (by decide) _
  have hassoc : "(" ++ sub ++ ") AS " ++ c.dialect.wrapSegment label =
      "(" ++ sub ++ (") AS " ++ c.dialect.wrapSegment label) := String.append_assoc
  rw [hassoc]
  exact T.enclose (by decide) h hlabel hplain

theorem emits_source {x : Source Q}
    (h : x.Meets P fun q => Emits (f q).write fun t vs => R t vs (g q)) :
    Emits (c.writeSource (x.map f)) fun t vs => R t vs (w.source c.dialect (x.map g)) := by
  cases x with
  | table name alias? =>
    have hname := Dialect.inert_name hd name
    cases alias? with
    | none => exact Emits.pure (T.text hname)
    | some label =>
      have hlabel := Dialect.inert_wrapSegment (Dialect.quotesNames_of_builtin hd) label
      exact Emits.pure (T.text ((hname.append (by decide)).append hlabel))
  | raw fragment => exact Emits.fragment (T.fragment h)
  | query q alias? =>
    rw [Source.Meets] at h
    refine Emits.map (h.mono fun sub vs hsub => ?_)
    cases alias? with
    | none => exact T.enclose (by decide) hsub (by decide) (by decide)
    | some label => exact T.labelled hd hsub label

theorem emits_column {x : Column Q}
    (h : x.Meets P fun q => Emits (f q).write fun t vs => R t vs (g q)) :
    Emits (c.writeColumn (x.map f)) fun t vs => R t vs (w.column c.dialect (x.map g)) := by
  cases x with
  | name name => exact Emits.pure (T.text (Dialect.inert_name hd name))
  | raw fragment => exact Emits.fragment (T.fragment h)
  | query q label =>
    rw [Column.Meets] at h
    exact Emits.map (h.mono fun sub vs hsub => T.labelled hd hsub label)

theorem emits_columns {xs : List (Column Q)}
    (h : ∀ x ∈ xs, x.Meets P fun q => Emits (f q).write fun t vs => R t vs (g q)) :
    Emits (c.writeColumns (xs.map (Column.map f))) fun t vs =>
      R t vs (w.columns c.dialect (xs.map (Column.map g))) := by
  have hlist := Emits.mapM_map fun x hx => T.emits_column hd (h x hx)
  exact Emits.map (hlist.mono fun _ _ => T.join (by decide) (by decide) (by decide))

theorem emits_join (hr : c.registry = .standard) {x : Join Q}
    (h : x.Meets P fun q => Emits (f q).write fun t vs => R t vs (g q)) :
    Emits (c.writeJoin (x.map f)) fun t vs => R t vs (w.joinOne c.dialect (x.map g)) := by
  refine Emits.bind (T.emits_source hd h.table) fun table vs htable => ?_
  refine Emits.map ((T.emits_conditions hd hr h.on).mono fun on ws hon => ?_)
  have hkeyword : Inert (x.kind.keyword ++ " ") := by cases x.kind <;> decide
  simp only [Assembly.joinOne, Join.map, T.isEmpty_eq hon]
  refine T.append (T.lead (T.text hkeyword) htable) ?_ (Or.inr ?_)
  · split
    · rename_i hempty
      rw [T.values_of_isEmpty hon hempty]
      exact T.text Inert.empty
    · exact T.lead (T.text (by decide)) hon
  · split
    · decide
    · exact StartsPlain.append (by decide) (by decide) on

theorem emits_order {x : Order} (h : x.Meets P) :
    Emits (c.writeOrder x) fun t vs => R t vs (w.order c.dialect x) := by
  cases x with
  | column column direction =>
    have hword : Inert direction.keyword := by cases direction <;> decide
    have hname := Dialect.inert_name hd column
    exact Emits.pure (T.text ((hname.append (by decide)).append hword))
  | raw fragment => exact Emits.fragment (T.fragment h)
  | random seed? => exact Emits.pure (T.random h)

omit hd in
theorem emits_combine (parenthesize : Bool) {x : Combine Q}
    (h : x.Meets P fun q => Emits (f q).write fun t vs => R t vs (g q)) :
    Emits (Compiler.writeCombine parenthesize (x.map f)) fun t vs =>
      R t vs (w.combine parenthesize (x.map g)) := by
  cases x with
  | query operation all q =>
    rw [Combine.Meets] at h
    refine Emits.map (h.mono fun sub vs hsub => ?_)
    have hwords : Inert (operation.keyword ++ (if all then " ALL" else "") ++ " ") := by
      cases operation <;> cases all <;> decide
    refine T.lead (T.text hwords) ?_
    cases parenthesize with
    | true => exact T.enclose (by decide) hsub (by decide) (by decide)
    | false => exact hsub
  | raw fragment => exact Emits.fragment (T.fragment h)

end Items

/-! ## Components -/

section Components

variable {α β γ : Type} {p? : Clause Q → Option α} {p?' : Clause SubSelect → Option β} {m : α → β}

omit [Append A] in
/-- Reading a component emits nothing and gives the payloads that are also read from the pieces. -/
theorem emits_payloads (hp : ∀ x, p?' (Clause.map f x) = (p? x).map m) (s : Store Q)
    (component : Component) {k : List β → CompileM γ} {P' : γ → List Value → Prop}
    (h : Emits (k ((s.get p? component).map m)) P') :
    Emits (Compiler.payloads (s.map f) p?' component >>= k) P' := by
  have hread : Emits (Compiler.payloads (s.map f) p?' component) fun l vs =>
      l = (s.get p? component).map m ∧ vs = [] := by
    refine Emits.ofExcept fun l hl => ⟨?_, rfl⟩
    rw [Store.get_of_getStrict hl, Store.get_map hp]
  refine Emits.bind hread fun l vs hl => ?_
  obtain ⟨rfl, rfl⟩ := hl
  exact h

omit [Append A] in
theorem emits_firstPayload (hp : ∀ x, p?' (Clause.map f x) = (p? x).map m) (s : Store Q)
    (component : Component) {k : Option β → CompileM γ} {P' : γ → List Value → Prop}
    (h : Emits (k ((s.get p? component).head?.map m)) P') :
    Emits (Compiler.firstPayload? (s.map f) p?' component >>= k) P' := by
  have hread : Emits (Compiler.firstPayload? (s.map f) p?' component) fun x? vs =>
      x? = (s.get p? component).head?.map m ∧ vs = [] :=
    emits_payloads hp s component (Emits.pure ⟨List.head?_map, rfl⟩)
  refine Emits.bind hread fun x? vs hx => ?_
  obtain ⟨rfl, rfl⟩ := hx
  exact h

include T hd

theorem emits_aggregate (s : Store Q) (isDistinct : Bool) :
    Emits (c.writeAggregate (s.map f) isDistinct) fun t? vs =>
      OptionRel R t? vs (w.aggregate c.dialect (s.map g) isDistinct) := by
  refine emits_firstPayload (Clause.aggregate_map f) s .aggregate ?_
  rw [Assembly.aggregate, Store.get_map (Clause.aggregate_map g), List.map_id, Option.map_id]
  cases (s.get Clause.aggregate? .aggregate).head? with
  | none => exact Emits.pure rfl
  | some aggregate =>
    refine Emits.pure (T.text ?_)
    have hquotes := Dialect.quotesNames_of_builtin hd
    have hword : Inert ("SELECT " ++ aggregate.function.keyword ++ "(") := by
      cases aggregate.function <;> decide
    have hcolumns := Dialect.inert_wrapList hquotes aggregate.columns
    refine Inert.append (Inert.append (Inert.append hword ?_) (by decide))
      (Dialect.inert_wrapSegment hquotes _)
    split
    · exact Inert.append (by decide) hcolumns
    · exact hcolumns

variable {s : Store Q} (hs : s.Meets P fun q => Emits (f q).write fun t vs => R t vs (g q))
include hs

theorem emits_projection (isDistinct : Bool) :
    Emits (c.writeProjection (s.map f) isDistinct) fun t? vs =>
      OptionRel R t? vs (w.projection c.dialect (s.map g) isDistinct) := by
  rw [Compiler.writeProjection, Assembly.projection, Store.has_map, Store.has_map]
  split
  · exact Emits.pure rfl
  · refine emits_payloads (Clause.column_map f) s .select ?_
    have hcolumns := T.emits_columns hd (hs.get (fun _ _ => Clause.Meets.column) .select)
    rw [Store.get_map (Clause.column_map g)]
    have hselect : Inert ("SELECT " ++ (if isDistinct then "DISTINCT " else "")) := by
      cases isDistinct <;> decide
    simp only [List.isEmpty_map]
    split
    · exact Emits.map (Emits.pure (T.lead (T.text hselect) (T.text (by decide))))
    · exact Emits.map (hcolumns.mono fun t vs ht => T.lead (T.text hselect) ht)

theorem emits_from :
    Emits (c.writeFrom (s.map f)) fun t? vs =>
      OptionRel R t? vs (w.fromSource c.dialect (s.map g)) := by
  have hsources := hs.get (fun _ _ => Clause.Meets.source) .from
  refine emits_firstPayload (Clause.source_map f) s .from ?_
  rw [Assembly.fromSource, Store.get_map (Clause.source_map g), List.head?_map]
  cases h : (s.get Clause.source? .from).head? with
  | none => exact Emits.pure rfl
  | some source =>
    have hsource := T.emits_source hd (hsources source (List.mem_of_head? h))
    exact Emits.map (hsource.mono fun t vs ht => T.lead (T.text (by decide)) ht)

theorem emits_groups :
    Emits (c.writeGroups (s.map f)) fun t? vs =>
      OptionRel R t? vs (w.groups c.dialect (s.map g)) := by
  have hcolumns := T.emits_columns hd (hs.get (fun _ _ => Clause.Meets.column) .group)
  refine emits_payloads (Clause.column_map f) s .group ?_
  rw [Assembly.groups, Store.get_map (Clause.column_map g)]
  simp only [List.isEmpty_map]
  split
  · exact Emits.pure rfl
  · exact Emits.map (hcolumns.mono fun t vs ht => T.lead (T.text (by decide)) ht)

theorem emits_orders :
    Emits (c.writeOrders (s.map f)) fun t? vs =>
      OptionRel R t? vs (w.orders c.dialect (s.map g)) := by
  have horders := hs.get (fun _ _ => Clause.Meets.order) .order
  have hlist := Emits.mapM_map (f := id) (g := id) fun x hx => T.emits_order hd (horders x hx)
  refine emits_payloads (Clause.order_map f) s .order ?_
  rw [Assembly.orders, Store.get_map (Clause.order_map g)]
  simp only [List.isEmpty_map]
  split
  · exact Emits.pure rfl
  · refine Emits.map (hlist.mono fun ts vs hts => ?_)
    exact T.lead (T.text (by decide)) (T.join (by decide) (by decide) (by decide) hts)

omit hd in
theorem emits_combines (parenthesize : Bool) :
    Emits (Compiler.writeCombines (s.map f) parenthesize) fun t? vs =>
      OptionRel R t? vs (w.combines (s.map g) parenthesize) := by
  have hcombines := hs.get (fun _ _ => Clause.Meets.combine) .union
  have hlist := Emits.mapM_map fun x hx => T.emits_combine parenthesize (hcombines x hx)
  refine emits_payloads (Clause.combine_map f) s .union ?_
  rw [Assembly.combines, Store.get_map (Clause.combine_map g)]
  refine Emits.map (hlist.mono fun ts vs hts => ?_)
  exact T.nonEmpty (T.join (by decide) (by decide) (by decide) hts)

omit hd in
theorem emits_setOperations :
    Emits (c.writeSetOperations (s.map f)) fun t? vs =>
      OptionRel R t? vs (w.setOperations c.dialect (s.map g)) := by
  unfold Compiler.writeSetOperations Assembly.setOperations
  cases c.dialect.combines with
  | omitted => exact Emits.pure rfl
  | bare => exact T.emits_combines hs false
  | parenthesized => exact T.emits_combines hs true

include hr

theorem emits_joins :
    Emits (c.writeJoins (s.map f)) fun t? vs =>
      OptionRel R t? vs (w.joins c.dialect (s.map g)) := by
  have hjoins := hs.get (fun _ _ => Clause.Meets.join) .join
  have hlist := Emits.mapM_map fun x hx => T.emits_join hd hr (hjoins x hx)
  refine emits_payloads (Clause.join_map f) s .join ?_
  rw [Assembly.joins, Store.get_map (Clause.join_map g)]
  refine Emits.map (hlist.mono fun ts vs hts => ?_)
  exact T.nonEmpty (T.join (by decide) (by decide) (by decide) hts)

theorem emits_where :
    Emits (c.writeWhere (s.map f)) fun t? vs =>
      OptionRel R t? vs (w.restriction c.dialect (s.map g)) := by
  have hmeets := hs.get (fun _ _ => Clause.Meets.condition) .where
  rw [Compiler.writeWhere, Assembly.restriction]
  simp only [Store.has_map]
  split
  · refine emits_payloads (Clause.condition_map f) s .where ?_
    rw [Store.get_map (Clause.condition_map g)]
    have hconditions := T.emits_conditions hd hr ((Condition.meetsAll_iff _ _ _).mpr hmeets)
    refine Emits.map (hconditions.mono fun t vs ht => ?_)
    exact optionMap (fun h => T.lead (T.text (by decide)) h) (T.nonEmpty ht)
  · exact Emits.pure rfl

theorem emits_havings :
    Emits (c.writeHavings (s.map f)) fun t? vs =>
      OptionRel R t? vs (w.havings c.dialect (s.map g)) := by
  have hmeets := hs.get (fun _ _ => Clause.Meets.condition) .having
  refine emits_payloads (Clause.condition_map f) s .having ?_
  have hterms := T.emits_terms hd hr _ ((Condition.meetsAll_iff _ _ _).mpr hmeets)
  rw [Condition.mapList_eq_map, Condition.mapList_eq_map] at hterms
  rw [Assembly.havings, Store.get_map (Clause.condition_map g)]
  refine Emits.map (hterms.mono fun ts vs hts => T.nonEmpty (T.joinTerms (hts.map ?_)))
  exact fun t vs b htb => ⟨htb.1, T.lead (T.text (by decide)) htb.2⟩

end Components

section Numbers

include T

theorem emits_number {keyword : String} (h : Inert (keyword ++ " ")) (n? : Option UInt32) :
    Emits (Compiler.writeNumber keyword n?) fun t? vs =>
      OptionRel R t? vs (w.number keyword n?) := by
  cases n? with
  | none => exact Emits.pure rfl
  | some n => exact Emits.map (Emits.bindValue (T.lead (T.text h) (T.value _)))

theorem emits_limit (s : Store Q) :
    Emits (Compiler.writeLimit (s.map f)) fun t? vs => OptionRel R t? vs (w.limit (s.map g)) := by
  refine emits_firstPayload (Clause.limit_map f) s .limit ?_
  rw [Assembly.limit, Store.get_map (Clause.limit_map g), List.map_id, Option.map_id]
  exact T.emits_number (by decide) _

theorem emits_offset (s : Store Q) :
    Emits (Compiler.writeOffset (s.map f)) fun t? vs => OptionRel R t? vs (w.offset (s.map g)) := by
  refine emits_firstPayload (Clause.limit_map f) s .limit ?_
  rw [Assembly.offset, Store.get_map (Clause.limit_map g), List.map_id, Option.map_id]
  exact T.emits_number (by decide) _

include hd in
theorem emits_lock (s : Store Q) :
    Emits (c.writeLock (s.map f)) fun t? vs => OptionRel R t? vs (w.lock c.dialect (s.map g)) := by
  refine emits_firstPayload (Clause.lock_map f) s .lock ?_
  rw [Assembly.lock, Store.get_map (Clause.lock_map g), List.map_id, Option.map_id, id_eq]
  refine Emits.pure ?_
  cases h : (s.get Clause.lock? .lock).head?.bind c.dialect.lock? with
  | none => rfl
  | some sql =>
    obtain ⟨lock, _, hlock⟩ := Option.bind_eq_some_iff.mp h
    exact T.text (Dialect.inert_lock hd hlock)

end Numbers

/-! ## Queries -/

include T hd hr

theorem emits_select {s : Store Q}
    (hs : s.Meets P fun q => Emits (f q).write fun t vs => R t vs (g q))
    (isDistinct : Bool) :
    Emits (c.writeSelect (s.map f) isDistinct) fun t vs =>
      R t vs (w.select c.dialect (s.map g) isDistinct) := by
  refine Emits.map ((Emits.mapM ?_).mono fun ts vs hts => T.joinFragments hts)
  refine .cons (T.emits_aggregate hd s isDistinct) <| .cons (T.emits_projection hd hs isDistinct) <|
    .cons (T.emits_from hd hs) <| .cons (T.emits_joins hd hr hs) <|
    .cons (T.emits_where hd hr hs) <| .cons (T.emits_groups hd hs) <|
    .cons (T.emits_havings hd hr hs) <| .cons (T.emits_orders hd hs) <| .cons (T.emits_limit s) <|
    .cons (T.emits_offset s) <| .cons (T.emits_setOperations hs) <| .cons (T.emits_lock hd s) .nil

/-- The outermost query, once its deep joins are expanded. -/
theorem emits_expanded {q : Query} (h : q.clauses.Meets P fun q => Emits (c.subselect q) fun t vs =>
      R t vs (w.query c q)) :
    Emits (c.select ⟨(c.expand q.clauses).store, q.isDistinct⟩) fun t vs =>
      R t vs (w.query c q) := by
  have hselect := T.emits_select (f := c.prepare) hd hr (h.expand T.operator_eq c) q.isDistinct
  rw [Assembly.query, Query.fold_eq, Compiler.expand_map]
  exact hselect

theorem emits_subselect {q : Query} (h : q.Meets P) :
    Emits (c.subselect q) fun t vs => R t vs (w.query c q) := by
  refine Query.Meets.induction (motive := fun q => Emits (c.subselect q) fun t vs =>
    R t vs (w.query c q)) (fun q ih => ?_) q h
  rw [Compiler.subselect_eq]
  refine Emits.bind (Emits.record _) fun _ vs hvs => ?_
  subst hvs
  cases (c.expand q.clauses).failure? with
  | some e => exact Emits.throw
  | none => exact T.emits_expanded hd hr ih

/-- The statement of a query that compiles: its text, before the dialect finishes it, and its values
are in relation to the query as it is assembled. -/
theorem compile {q : Query} (h : q.Meets P) {r : Statement}
    (hr' : (c.compile q).outcome = .ok r) :
    ∃ text ctx, c.select (c.compile q).query {} = .ok text ctx ∧
      r = ⟨c.dialect.finish text ctx.bindings, ctx.bindings⟩ ∧
      R text ctx.bindings.toList (w.query c q) := by
  obtain ⟨text, ctx, hselect, rfl⟩ := Compiler.select_of_compile hr'
  refine ⟨text, ctx, hselect, rfl, ?_⟩
  rw [Compiler.query_compile] at hselect
  have hnested := (Store.meets_any (fun q => T.emits_subselect hd hr) q.clauses).mp
    ((Query.meets_iff P q).mp h)
  exact (T.emits_expanded hd hr hnested).of_run hselect

end Tracks

end SqlSelect
