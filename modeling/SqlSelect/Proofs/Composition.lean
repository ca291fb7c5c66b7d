import SqlSelect.Proofs.Faults
import SqlSelect.Proofs.Template

/-!
# Statements are composed

An action of the compiler does not look at what a context holds already: the result or the error is
that of the empty context, and what is appended there is appended here. So a nested query gives an
enclosing statement what it gives by itself. The statement is its template with the text of each
nested query in its place, and the values of a nested query stand together, at the same point in the
order, between the values of the statement's own.
-/

namespace SqlSelect

variable {α β Q : Type}

/-! ## Contexts -/

/-- The action does in every context what it does in the empty one, after what is there already. -/
def Frames (m : CompileM α) : Prop :=
  ∀ ctx, m ctx = match m {} with
    | .ok a later => .ok a ⟨ctx.bindings ++ later.bindings, ctx.events ++ later.events⟩
    | .error e later => .error e ⟨ctx.bindings ++ later.bindings, ctx.events ++ later.events⟩

theorem Emitted.frames (w : Emitted α) : Frames w.run := by
  have happend : ∀ {γ : Type} (xs : Array γ) (ys : List γ),
      xs ++ ((#[] : Array γ) ++ ys) = xs ++ ys := by
    intro γ xs ys
    apply Array.ext'
    simp
  intro ctx
  rw [run, run]
  cases w.outcome <;> simp only [happend]

theorem Posts.frames {m : CompileM α} {l : Ledger} (h : Posts m l) : Frames m := by
  obtain ⟨w, rfl, _⟩ := h
  exact w.frames

/-! ## The ends of a statement -/

theorem Solid.between {xs ys : List Char} (hx : Solid xs) (hy : Solid ys) (zs : List Char) :
    Solid (xs ++ zs ++ ys) := by
  obtain ⟨c, rest, rfl, hc⟩ := hx.head
  obtain ⟨front, last, rfl, hlast⟩ := hy.last
  exact ⟨⟨c, _, rfl, hc⟩, ⟨_, last, (List.append_assoc _ _ _).symm, hlast⟩⟩

theorem solid_intercalate {separator : String} {ss : List String} (hne : ss ≠ [])
    (h : ∀ s ∈ ss, Solid s.toList) : Solid (separator.intercalate ss).toList := by
  induction ss with
  | nil => exact absurd rfl hne
  | cons s ss ih =>
    cases ss with
    | nil => simpa using h
    | cons t ss =>
      rw [String.intercalate_cons_cons, String.toList_append, String.toList_append]
      exact (h s List.mem_cons_self).between
        (ih (List.cons_ne_nil _ _) fun u hu => h u (List.mem_cons_of_mem _ hu)) _

theorem solid_joinFragments {fragments : List (Option String)} {s : String}
    (hmem : some s ∈ fragments) (hne : Text.trim s ≠ "") :
    Solid (joinFragments fragments).toList := by
  refine solid_intercalate (List.ne_nil_of_mem (a := Text.trim s) ?_) fun t ht => ?_
  · rw [List.mem_filter]
    refine ⟨List.mem_map_of_mem (List.mem_filterMap.mpr ⟨_, hmem, rfl⟩), ?_⟩
    simpa using hne
  · obtain ⟨hmap, hempty⟩ := List.mem_filter.mp ht
    obtain ⟨u, _, rfl⟩ := List.mem_map.mp hmap
    have hchars : Text.trimChars u.toList ≠ [] := by simpa [Text.trim] using hempty
    rw [Text.trim, String.toList_ofList]
    exact Text.solid_trimChars hchars

theorem Text.trim_append_ne {s : String} (h : ∃ c cs, s.toList = c :: cs ∧ isBlank c = false)
    (t : String) : trim (s ++ t) ≠ "" := by
  obtain ⟨c, cs, hs, hc⟩ := h
  simpa [trim, hs] using trimChars_ne_nil hc (cs ++ t.toList)

/-- The text begins as a statement does. -/
def IsSelect (text : String) : Prop :=
  ∃ rest, text = "SELECT " ++ rest

namespace IsSelect

variable {text : String}

theorem append (h : IsSelect text) (more : String) : IsSelect (text ++ more) := by
  obtain ⟨rest, rfl⟩ := h
  exact ⟨rest ++ more, String.append_assoc⟩

theorem trim_ne (h : IsSelect text) : Text.trim text ≠ "" := by
  obtain ⟨rest, rfl⟩ := h
  exact Text.trim_append_ne ⟨'S', _, rfl, by decide⟩ rest

end IsSelect

theorem Store.writes_map {R : Type} (f : Q → R) (unions : Bool) (s : Store Q)
    (component : Component) : (s.map f).writes unions component = s.writes unions component := by
  cases component <;> simp only [Store.writes, Store.has_map]

namespace Compiler

variable {c : Compiler} {s : Store SubSelect} {isDistinct : Bool} {ctx ctx' : Context}

theorem payloads_eq_ok {p? : Clause SubSelect → Option α} {component : Component}
    {payloads : List α} (h : Compiler.payloads s p? component ctx = .ok payloads ctx') :
    s.getStrict p? component = .ok payloads := by
  rw [Compiler.payloads] at h
  cases hread : s.getStrict p? component <;> rw [hread] at h <;> cases h
  rfl

/-- An aggregate that is there is written. -/
theorem writeAggregate_eq_ok {text? : Option String}
    (h : c.writeAggregate s isDistinct ctx = .ok text? ctx') :
    (∃ text, text? = some text ∧ IsSelect text) ∨ s.has .aggregate = false := by
  obtain ⟨aggregate?, mid, hfirst, hwrite⟩ := bind_eq_ok h
  obtain ⟨aggregates, mid', hread, hhead⟩ := bind_eq_ok hfirst
  cases hhead
  cases aggregates with
  | cons aggregate aggregates =>
    cases hwrite
    exact Or.inl ⟨_, rfl, .append (.append (.append (.append ⟨_, rfl⟩ _) _) _) _⟩
  | nil =>
    have hget := payloads_eq_ok hread
    cases hmisplaced : s.misplaced? .aggregate with
    | some clause =>
      rw [Store.getStrict_eq_error .aggregate hmisplaced] at hget
      cases hget
    | none =>
      obtain ⟨aggregates, hclauses, hok⟩ :=
        Store.getStrict_eq_ok .aggregate hmisplaced
      cases hget.symm.trans hok
      exact Or.inr ((Store.has_eq_false_iff s .aggregate).mpr hclauses)

/-- Without an aggregate there is a projection. -/
theorem writeProjection_eq_ok {text? : Option String}
    (h : c.writeProjection s isDistinct ctx = .ok text? ctx') (hs : s.has .aggregate = false) :
    ∃ text, text? = some text ∧ IsSelect text := by
  rw [writeProjection, hs] at h
  obtain ⟨columns, mid, _, hcolumns⟩ := bind_eq_ok h
  have hlist : ∃ list, text? =
      some ("SELECT " ++ (if isDistinct then "DISTINCT " else "") ++ list) := by
    cases columns with
    | nil =>
      cases hcolumns
      exact ⟨_, rfl⟩
    | cons x columns =>
      obtain ⟨list, _, _, hwrite⟩ := bind_eq_ok hcolumns
      cases hwrite
      exact ⟨list, rfl⟩
  obtain ⟨list, rfl⟩ := hlist
  exact ⟨_, rfl, .append ⟨_, rfl⟩ list⟩

theorem solid_writeSelect {text : String} (h : c.writeSelect s isDistinct ctx = .ok text ctx') :
    Solid text.toList := by
  obtain ⟨fragments, mid, hfragments, htext⟩ := bind_eq_ok h
  cases htext
  rw [Compiler.fragments, List.mapM_cons] at hfragments
  obtain ⟨aggregate?, mid₁, haggregate, hrest⟩ := bind_eq_ok hfragments
  obtain ⟨others, mid₂, hothers, hlist⟩ := bind_eq_ok hrest
  cases hlist
  rw [List.mapM_cons] at hothers
  obtain ⟨projection?, mid₃, hprojection, hrest⟩ := bind_eq_ok hothers
  obtain ⟨others, mid₄, _, hlist⟩ := bind_eq_ok hrest
  cases hlist
  rcases writeAggregate_eq_ok haggregate with ⟨text, rfl, htext⟩ | hnone
  · exact solid_joinFragments List.mem_cons_self htext.trim_ne
  · obtain ⟨text, rfl, htext⟩ := writeProjection_eq_ok hprojection hnone
    exact solid_joinFragments (List.mem_cons_of_mem _ List.mem_cons_self) htext.trim_ne

/-! ## Nested queries by themselves -/

/-- What a query gives when it is expanded and written by itself, before the dialect finishes it. -/
def alone (c : Compiler) : Alone Query := fun q =>
  match (c.expand q.clauses).failure? with
  | some e => .error e
  | none =>
    match c.select ⟨(c.expand q.clauses).store, q.isDistinct⟩ {} with
    | .ok text ctx => .ok (text, ctx.bindings.toList)
    | .error e _ => .error e

/-- A compiled statement is what the query gives by itself, finished by the dialect. -/
theorem outcome_eq_alone (c : Compiler) (q : Query) :
    (c.compile q).outcome = (c.alone q).map fun (text, values) =>
      ⟨c.dialect.finish text values.toArray, values.toArray⟩ := by
  rw [outcome_compile, alone]
  cases (c.expand q.clauses).failure? with
  | some e => rfl
  | none => cases c.select ⟨(c.expand q.clauses).store, q.isDistinct⟩ {} <;> rfl

theorem solid_alone (q : Query) (text : String) (values : List Value)
    (h : c.alone q = .ok (text, values)) : Solid text.toList := by
  rw [alone] at h
  split at h
  · cases h
  · split at h
    · rename_i hselect
      cases h
      exact solid_writeSelect hselect
    · cases h

/-- The template of a query whose deep joins are expanded. -/
def template (c : Compiler) (s : Store Q) (isDistinct : Bool) : Template Q :=
  Assembly.template.select c.dialect (s.map Template.ofQuery) isDistinct

section Standard

variable (hd : c.dialect ∈ Dialect.builtin) (hr : c.registry = .standard)
include hd hr

theorem emits_subselect (q : Query) :
    Emits (c.subselect q) fun text values => c.alone q = .ok (text, values) := by
  rw [subselect_eq, alone]
  refine Emits.bind (Emits.record _) fun _ vs hvs => ?_
  subst hvs
  cases (c.expand q.clauses).failure? with
  | some e => exact Emits.throw
  | none =>
    obtain ⟨⟨outcome, values, events⟩, hrun, _⟩ :=
      posts_select hd hr ⟨(c.expand q.clauses).store, q.isDistinct⟩
    refine ⟨_, hrun, fun text htext => ?_⟩
    cases htext
    simp [hrun, Emitted.run]

/-- A statement is its template, filled with what the nested queries give by themselves. -/
theorem fills_template {q : Query} {text : String} (h : c.select q {} = .ok text ctx) :
    (c.template q.clauses q.isDistinct).Fills c.alone text ctx.bindings.toList := by
  have hnested : q.clauses.Meets .any fun p => Emits (c.subselect p) fun text values =>
      (Template.ofQuery p).Fills c.alone text values :=
    Store.meets_any (fun p => (emits_subselect hd hr p).mono fun _ _ => .nested) q.clauses
  exact ((tracks_fills solid_alone c.dialect).emits_select hd hr hnested q.isDistinct).of_run h

theorem within_of_select {q : Query} {text : String} (h : c.select q {} = .ok text ctx) :
    ((q.clauses.map (Query.ledger c.expander c.dialect.writesUnions)).ledger
      c.dialect.writesUnions).Within fun _ => False := by
  obtain ⟨⟨outcome, values, events⟩, hrun, hsettle⟩ := posts_select hd hr q
  rw [hrun] at h
  rcases Ledger.settle_cases ((q.clauses.map (Query.ledger c.expander
    c.dialect.writesUnions)).ledger c.dialect.writesUnions) with ⟨_, _, hwithin⟩ | ⟨e, herror, _⟩
  · exact hwithin
  · cases outcome with
    | error e => cases h
    | ok _ => cases hsettle.trans herror

/-- A query that is written has no misplaced clauses in what is written of it. -/
theorem misplaced_of_select {q : Query} {text : String} (h : c.select q {} = .ok text ctx)
    (component : Component) (hwrites : q.clauses.writes c.dialect.writesUnions component = true) :
    q.clauses.misplaced? component = none := by
  have hledger := (Store.within_ledger _ _).mp (within_of_select hd hr h) component
    (by rwa [Store.writes_map])
  rw [Store.componentLedger, Store.misplaced_map] at hledger
  cases hmisplaced : q.clauses.misplaced? component with
  | none => rfl
  | some clause =>
    rw [hmisplaced] at hledger
    exact ((Ledger.within_fault _).mp hledger).elim

end Standard

end Compiler

/-- Whatever a context holds, the compiler's actions return the same text or error as in the empty
context and append the same values. So a statement is its template, in which each nested query has a
place, filled with the text and the values that the nested queries give by themselves. -/
theorem select_composes {c : Compiler} (hd : c.dialect ∈ Dialect.builtin)
    (hr : c.registry = .standard) :
    ((∀ q, Frames (c.select q)) ∧ (∀ q, Frames (c.subselect q)) ∧
      (∀ items, Frames (c.conditions items)) ∧ (∀ source, Frames (c.source source)) ∧
      ∀ q parenthesize, Frames (c.combines q parenthesize)) ∧
    (∀ q, (c.compile q).outcome = (c.alone q).map fun (text, values) =>
      ⟨c.dialect.finish text values.toArray, values.toArray⟩) ∧
    ∀ q text ctx, c.select q {} = .ok text ctx →
      (c.template q.clauses q.isDistinct).queries = q.clauses.queries c.dialect.writesUnions ∧
      (c.template q.clauses q.isDistinct).Fills c.alone text ctx.bindings.toList := by
  have hnested := posts_subselect hd hr
  refine ⟨⟨fun q => (posts_select hd hr q).frames, fun q => (hnested q).frames, ?_, ?_, ?_⟩,
    c.outcome_eq_alone, fun q text ctx h => ⟨?_, Compiler.fills_template hd hr h⟩⟩
  · intro items
    have hmeets : ∀ item ∈ items, item.Meets .any fun q =>
        Posts (c.subselect q) (q.ledger c.expander c.dialect.writesUnions) :=
      fun item _ => Clause.meets_any hnested (.where item)
    exact ((posts_terms hr hmeets).map Term.join).frames
  · intro source
    exact (Source.Meets.posts (Clause.meets_any hnested (.from source))).frames
  · intro q parenthesize
    exact (posts_combines (Store.meets_any hnested q.clauses) parenthesize).frames
  · exact queries_template q.isDistinct (Compiler.misplaced_of_select hd hr h)

theorem select_composes_sample :
    let c : Compiler := { dialect := .mysql }
    let q := Query.sample (.int 1) (.bool true)
    ∃ text ctx nested, c.select q {} = .ok text ctx ∧
      text = "SELECT * FROM \x60a?\x60 WHERE \x60id\x60 IN (" ++
        "SELECT \x60x\x60 FROM \x60u\x60 WHERE \x60k\x60 = ?" ++ ") AND f(?, '?')" ∧
      (∀ before, c.select q before =
        .ok text ⟨before.bindings ++ ctx.bindings, before.events ++ ctx.events⟩) ∧
      (c.template q.clauses q.isDistinct).queries = [nested] ∧
      (c.template q.clauses q.isDistinct).Fills c.alone text ctx.bindings.toList := by
  intro c q
  have hd : c.dialect ∈ Dialect.builtin := by simp [c, Dialect.builtin]
  have hselect : ∃ text ctx, c.select q {} = .ok text ctx ∧
      text = "SELECT * FROM \x60a?\x60 WHERE \x60id\x60 IN (" ++
        "SELECT \x60x\x60 FROM \x60u\x60 WHERE \x60k\x60 = ?" ++ ") AND f(?, '?')" :=
    ⟨_, _, rfl, by decide +kernel⟩
  obtain ⟨text, ctx, hselect, htext⟩ := hselect
  obtain ⟨⟨hframes, _⟩, _, hfills⟩ := select_composes hd (rfl : c.registry = .standard)
  refine ⟨text, ctx, _, hselect, htext, fun before => ?_, (hfills q _ _ hselect).1,
    (hfills q _ _ hselect).2⟩
  rw [hframes q before, hselect]

end SqlSelect
