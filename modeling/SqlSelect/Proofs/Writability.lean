import SqlSelect.Proofs.Faults

/-!
# Which queries can be written

Whether a query can be written is decided by its clauses. Those of the components that are written
must be of the kind of their component, and what is reached of them must be well formed: fragments
have as many marks as values, no predicate is custom, and nested queries can be expanded and then
written themselves. The condition does not mention the compiler, and a query is written exactly
when it holds.
-/

namespace SqlSelect

variable {Q R : Type}

open Ledger

/-- Every fragment has as many marks as values. -/
def Policy.matched : Policy where
  fragment f := Placeholder.count f.sql = f.bindings.length
  operator _ := True
  seed _ := True

theorem Policy.within_false : Policy.within (fun _ => False) = Policy.matched := by
  have hfragment : (Policy.within fun _ => False).fragment = Policy.matched.fragment := by
    funext f
    have hf := f.within_ledger (E := fun _ => False)
    rw [or_false] at hf
    exact propext hf
  rw [Policy.within, Policy.matched, Policy.mk.injEq]
  exact ⟨hfragment, rfl, rfl⟩

/-- The fragments are matched, no predicate is custom, and nested queries satisfy `N`. -/
def Clause.WellFormed (N : Q → Prop) (c : Clause Q) : Prop :=
  c.Meets .matched N ∧ c.customTags = []

theorem Clause.wellFormed_map (N : R → Prop) (f : Q → R) (c : Clause Q) :
    (c.map f).WellFormed N ↔ c.WellFormed (N ∘ f) := by
  rw [Clause.WellFormed, Clause.WellFormed, Clause.meets_map, Clause.customTags_map]

theorem Clause.wellFormed_iff (c : Clause Ledger) :
    c.WellFormed (Within fun _ => False) ↔ c.ledger.Within fun _ => False := by
  rw [Clause.within_ledger, Policy.within_false, Clause.WellFormed, List.eq_nil_iff_forall_not_mem]

namespace Store

/-- The components that are written: an aggregate takes the place of the projection, a restriction
needs a source, and the generic dialect leaves out set operations. -/
def Writes (d : Dialect) (s : Store Q) : Component → Prop
  | .select => s.clauses .aggregate = []
  | .where => s.clauses .from ≠ []
  | .union => d ≠ .generic
  | .deepJoin => False
  | .from | .join | .group | .having | .order | .limit | .aggregate | .lock => True

/-- The clauses of the components that are written are of the right kind, and those that are
reached are well formed. -/
structure Writable (d : Dialect) (N : Q → Prop) (s : Store Q) : Prop where
  placed : ∀ component, s.Writes d component → s.Placed component
  wellFormed : ∀ component, s.Writes d component →
    ∀ clause ∈ s.written component, clause.WellFormed N

theorem writes_iff {d : Dialect} (hd : d ∈ Dialect.builtin) (s : Store Q) (component : Component) :
    s.writes d.writesUnions component = true ↔ s.Writes d component := by
  have hunions : d.writesUnions = true ↔ d ≠ .generic := by
    have hname : ∀ d' : Dialect, d'.name ≠ "generic" → d' ≠ .generic :=
      fun d' hne heq => hne (congrArg Dialect.name heq)
    simp only [Dialect.builtin, List.mem_cons, List.not_mem_nil, or_false] at hd
    rcases hd with rfl | rfl | rfl | rfl
    · exact iff_of_false (by decide) (fun h => h rfl)
    · exact iff_of_true rfl (hname _ (by decide))
    · exact iff_of_true rfl (hname _ (by decide))
    · exact iff_of_true rfl (hname _ (by decide))
  cases component with
  | select =>
    rw [writes, Bool.not_eq_true', s.has_eq_false_iff]
    rfl
  | «where» => exact s.has_eq_true_iff .from
  | union => exact hunions
  | deepJoin => exact iff_of_false Bool.false_ne_true id
  | _ => exact iff_of_true rfl trivial

theorem writes_map_iff (d : Dialect) (f : Q → R) (s : Store Q) (component : Component) :
    (s.map f).Writes d component ↔ s.Writes d component := by
  cases component <;> simp only [Writes, clauses_map, ne_eq, List.map_eq_nil_iff]

theorem writable_map (d : Dialect) (N : R → Prop) (f : Q → R) (s : Store Q) :
    (s.map f).Writable d N ↔ s.Writable d (N ∘ f) := by
  have hplaced : ∀ component, ((s.map f).Writes d component → (s.map f).Placed component) ↔
      (s.Writes d component → s.Placed component) := by
    intro component
    rw [writes_map_iff, placed_map]
  have hwellFormed : ∀ component, ((s.map f).Writes d component →
        ∀ clause ∈ (s.map f).written component, clause.WellFormed N) ↔
      (s.Writes d component → ∀ clause ∈ s.written component, clause.WellFormed (N ∘ f)) := by
    intro component
    rw [writes_map_iff, written_map, List.forall_mem_map]
    simp only [Clause.wellFormed_map]
  constructor
  · intro h
    exact ⟨fun component => (hplaced component).mp (h.placed component),
      fun component => (hwellFormed component).mp (h.wellFormed component)⟩
  · intro h
    exact ⟨fun component => (hplaced component).mpr (h.placed component),
      fun component => (hwellFormed component).mpr (h.wellFormed component)⟩

/-- A store can be written exactly when its ledger has no faults. -/
theorem writable_iff_within {d : Dialect} (hd : d ∈ Dialect.builtin) (s : Store Ledger) :
    s.Writable d (Within fun _ => False) ↔ (s.ledger d.writesUnions).Within fun _ => False := by
  rw [within_ledger]
  constructor
  · intro h component hwrites
    rw [writes_iff hd] at hwrites
    rw [(h.placed component hwrites).componentLedger_eq, within_flatMap]
    intro clause hclause
    exact (Clause.wellFormed_iff clause).mp (h.wellFormed component hwrites clause hclause)
  · intro h
    have hplaced : ∀ component, s.Writes d component → s.Placed component := by
      intro component hwrites
      have hledger := h component ((writes_iff hd s component).mpr hwrites)
      rw [← misplaced_eq_none_iff]
      cases hs : s.misplaced? component with
      | none => rfl
      | some clause =>
        rw [componentLedger, hs] at hledger
        exact absurd ((within_fault _).mp hledger) not_false
    refine ⟨hplaced, ?_⟩
    intro component hwrites clause hclause
    have hledger := h component ((writes_iff hd s component).mpr hwrites)
    rw [(hplaced component hwrites).componentLedger_eq, within_flatMap] at hledger
    exact (Clause.wellFormed_iff clause).mpr (hledger clause hclause)

end Store

/-- The deep joins of the query can be expanded, and the query can then be written. -/
def Query.Writable (c : Compiler) : Query → Prop :=
  Query.fold fun s _ => (c.expand s).failure? = none ∧ (c.expand s).store.Writable c.dialect id

theorem Query.writable_iff (c : Compiler) (q : Query) :
    q.Writable c ↔ (c.expand q.clauses).failure? = none ∧
      (c.expand q.clauses).store.Writable c.dialect (Query.Writable c) := by
  rw [Query.Writable, Query.fold_eq, Compiler.expand_map]
  exact and_congr_right fun _ => Store.writable_map c.dialect id _ _

/-- An action that posts a ledger succeeds exactly when the ledger has no faults. -/
theorem Posts.succeeds_iff {α : Type} {m : CompileM α} {l : Ledger} (h : Posts m l)
    (ctx : Context) : (∃ a ctx', m ctx = .ok a ctx') ↔ l.Within fun _ => False := by
  obtain ⟨⟨outcome, values, events⟩, rfl, hsettle⟩ := h
  rcases l.settle_cases with ⟨vs, hvs, hl⟩ | ⟨e, he, hmem⟩
  · rw [hvs] at hsettle
    cases outcome with
    | error e => cases hsettle
    | ok a => exact iff_of_true ⟨a, _, rfl⟩ hl
  · rw [he] at hsettle
    cases outcome with
    | error e' =>
      refine iff_of_false ?_ fun hl => hl e hmem
      rintro ⟨a, ctx', ha⟩
      cases ha
    | ok a => cases hsettle

section Compilers

variable {c : Compiler} (hd : c.dialect ∈ Dialect.builtin)
include hd

theorem Query.writable_iff_within (q : Query) :
    q.Writable c ↔ (q.ledger c.expander c.dialect.writesUnions).Within fun _ => False := by
  induction q using Query.induction with
  | step q ih =>
    have hexpand := Compiler.expand_eq (Dialect.expandsDeepJoins_of_builtin hd) q.clauses
    -- a predicate on nested queries is a map to propositions, so `map_congr` can exchange it
    have hnested := Store.map_congr ((ih.mono fun _ h => propext h).expand trivial c)
    rw [Query.writable_iff, Query.ledger_eq, ← hexpand]
    cases (c.expand q.clauses).failure? with
    | some e => simp [within_fault]
    | none =>
      simp only [true_and]
      rw [← Store.writable_iff_within hd, Store.writable_map,
        ← Function.id_comp (Query.Writable c), ← Store.writable_map, hnested, Store.writable_map]
      rfl

variable (hr : c.registry = .standard)
include hr

theorem select_succeeds_iff_writable (q : Query) (ctx : Context) :
    (∃ text ctx', c.select q ctx = .ok text ctx') ↔
      q.clauses.Writable c.dialect (Query.Writable c) := by
  have hwritable : Query.Writable c =
      (Within fun _ => False) ∘ Query.ledger c.expander c.dialect.writesUnions :=
    funext fun q => propext (Query.writable_iff_within hd q)
  rw [(posts_select hd hr q).succeeds_iff ctx, ← Store.writable_iff_within hd, Store.writable_map,
    hwritable]

/-- Writing a query succeeds exactly when its clauses allow it, and what is asked of a nested query
is that it can be expanded and then written. -/
theorem select_succeeds_iff (q : Query) (ctx : Context) :
    ((∃ text ctx', c.select q ctx = .ok text ctx') ↔
      q.clauses.Writable c.dialect (Query.Writable c)) ∧
    (q.Writable c ↔ (c.expand q.clauses).failure? = none ∧
      ∃ text ctx', c.select ⟨(c.expand q.clauses).store, q.isDistinct⟩ ctx = .ok text ctx') := by
  refine ⟨select_succeeds_iff_writable hd hr q ctx, ?_⟩
  rw [select_succeeds_iff_writable hd hr, Query.writable_iff]

end Compilers

/-- A custom predicate does no harm where there is no source, and with one it does. -/
theorem select_succeeds_iff_sample :
    let c : Compiler := { dialect := .postgres }
    let bare := Query.empty.whereCondition (.ofPredicate (.custom "geo" "place" []))
    let sourced := bare.fromTable "t"
    c.dialect ∈ Dialect.builtin ∧ c.registry = .standard ∧
      (∃ text ctx, c.select bare {} = .ok text ctx) ∧
      ¬∃ text ctx, c.select sourced {} = .ok text ctx := by
  intro c bare sourced
  have hd : c.dialect ∈ Dialect.builtin := by simp [c, Dialect.builtin]
  have hempty : ∀ component, bare.clauses.Writes c.dialect component →
      bare.clauses.clauses component = [] := by
    intro component hwrites
    cases component with
    | «where» => exact absurd rfl hwrites
    | _ => rfl
  have hbare : bare.clauses.Writable c.dialect (Query.Writable c) := by
    constructor
    · intro component hwrites clause hclause
      rw [hempty component hwrites] at hclause
      cases hclause
    · intro component hwrites clause hclause
      have hmem := Store.mem_clauses_of_mem_written hclause
      rw [hempty component hwrites] at hmem
      cases hmem
  have hsourced : ¬sourced.clauses.Writable c.dialect (Query.Writable c) := by
    intro h
    have hcustom := (h.wellFormed .where (List.cons_ne_nil _ _) _ List.mem_cons_self).2
    cases hcustom
  refine ⟨hd, rfl, ?_, ?_⟩
  · exact (select_succeeds_iff hd rfl bare {}).1.mpr hbare
  · exact fun h => hsourced ((select_succeeds_iff hd rfl sourced {}).1.mp h)

end SqlSelect
