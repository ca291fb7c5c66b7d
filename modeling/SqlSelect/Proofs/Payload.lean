import SqlSelect.Proofs.Expansion

/-!
# Reading the clauses of a component

A writer reads the payloads of one component and refuses clauses of another kind. When no clause is
refused the payloads are those that `Store.get` finds, and a change of clauses that keeps their
kinds changes the payloads and nothing else.
-/

namespace SqlSelect

variable {Q R α β : Type} {φ : Clause Q → Clause R} {p? : Clause Q → Option α}
  {p?' : Clause R → Option β} {m : α → β}

theorem Store.has_mapClauses (φ : Clause Q → Clause R) (s : Store Q) (component : Component) :
    (s.mapClauses φ).has component = s.has component := by
  simp only [Store.has, Store.mapClauses, List.any_map]
  rfl

theorem Store.get_mapClauses (hp : ∀ c, p?' (φ c) = (p? c).map m) (s : Store Q)
    (component : Component) :
    (s.mapClauses φ).get p?' component = (s.get p? component).map m := by
  rw [Store.get, Store.get, Store.clauses_mapClauses, List.filterMap_map, List.map_filterMap]
  exact congrArg (List.filterMap · _) (funext hp)

theorem Store.strictPayload_mapClauses (hkind : ∀ c, (φ c).kind = c.kind)
    (hp : ∀ c, p?' (φ c) = (p? c).map m) (component : Component) (c : Clause Q) :
    strictPayload p?' component (φ c) = (strictPayload p? component c).map m := by
  unfold strictPayload
  rw [hp, hkind]
  cases p? c with
  | none => rfl
  | some payload =>
    simp only [Option.map_some]
    split <;> rfl

/-- The results of a checked list may be changed one by one. -/
theorem map_mapM {ε γ : Type} (f : α → Except ε β) (g : β → γ) (xs : List α) :
    (xs.mapM f).map (List.map g) = xs.mapM fun x => (f x).map g := by
  induction xs with
  | nil => rfl
  | cons x xs ih =>
    rw [List.mapM_cons, List.mapM_cons, ← ih]
    cases f x with
    | error e => rfl
    | ok y => cases xs.mapM f <;> rfl

/-- Results that become equal are the same error or two values that become equal. -/
theorem map_eq_map_cases {ε : Type} {f : α → β} {x y : Except ε α} (h : x.map f = y.map f) :
    (∃ e, x = .error e ∧ y = .error e) ∨ ∃ a b, x = .ok a ∧ y = .ok b ∧ f a = f b := by
  cases x with
  | error e =>
    cases y with
    | error e' =>
      cases h
      exact Or.inl ⟨e, rfl, rfl⟩
    | ok b => cases h
  | ok a =>
    cases y with
    | error e' => cases h
    | ok b => exact Or.inr ⟨a, b, rfl, rfl, Except.ok.inj h⟩

/-- The same clause is refused after the change as before. -/
theorem Store.getStrict_mapClauses (hkind : ∀ c, (φ c).kind = c.kind)
    (hp : ∀ c, p?' (φ c) = (p? c).map m) (s : Store Q) (component : Component) :
    (s.mapClauses φ).getStrict p?' component = (s.getStrict p? component).map (List.map m) := by
  rw [Store.getStrict, Store.getStrict, Store.clauses_mapClauses, map_mapM, List.mapM_map]
  congr 1
  funext c
  exact strictPayload_mapClauses hkind hp component c

theorem Store.payload_of_strictPayload {component : Component} {c : Clause Q} {a : α}
    (h : strictPayload p? component c = .ok a) : p? c = some a := by
  unfold strictPayload at h
  split at h
  · rename_i payload hpayload
    split at h <;> cases h
    exact hpayload
  · cases h

theorem Store.get_of_getStrict {s : Store Q} {component : Component} {payloads : List α}
    (h : s.getStrict p? component = .ok payloads) : payloads = s.get p? component := by
  rw [Store.getStrict] at h
  rw [Store.get]
  generalize s.clauses component = cs at h
  induction cs generalizing payloads with
  | nil =>
    cases h
    rfl
  | cons c cs ih =>
    rw [List.mapM_cons] at h
    cases hc : strictPayload p? component c with
    | error e =>
      rw [hc] at h
      cases h
    | ok a =>
      cases hcs : cs.mapM (strictPayload p? component) with
      | error e =>
        rw [hc, hcs] at h
        cases h
      | ok as =>
        rw [hc, hcs] at h
        cases h
        rw [List.filterMap_cons_some (payload_of_strictPayload hc), ← ih hcs]

/-- A list fails to be read because of one of its items. -/
theorem exists_of_mapM_error {ε : Type} {f : α → Except ε β} {xs : List α} {e : ε}
    (h : xs.mapM f = .error e) : ∃ x ∈ xs, f x = .error e := by
  induction xs with
  | nil => cases h
  | cons x xs ih =>
    rw [List.mapM_cons] at h
    cases hx : f x with
    | error e' =>
      rw [hx] at h
      cases h
      exact ⟨x, List.mem_cons_self, hx⟩
    | ok b =>
      cases hxs : xs.mapM f with
      | error e' =>
        rw [hx, hxs] at h
        cases h
        obtain ⟨y, hy, hfy⟩ := ih hxs
        exact ⟨y, List.mem_cons_of_mem x hy, hfy⟩
      | ok bs =>
        rw [hx, hxs] at h
        cases h

theorem Store.getStrict_error {s : Store Q} {component : Component}
    {e : CompileError} (h : s.getStrict p? component = .error e) :
    ∃ found, e = .invalidClause component.name found := by
  obtain ⟨clause, _, hclause⟩ := exists_of_mapM_error h
  refine ⟨clause.kind.name, ?_⟩
  unfold strictPayload at hclause
  split at hclause
  · split at hclause <;> cases hclause
    rfl
  · cases hclause
    rfl

/-- The deep joins are read like the payloads of other components, but with their numbers. -/
theorem Store.deepJoins_eq_getStrict (s : Store Q) :
    s.deepJoins.map (List.map (·.2)) = s.getStrict Clause.deepJoin? .deepJoin := by
  rw [deepJoins, getStrict, clauses, map_mapM, List.mapM_map]
  congr 1
  funext e
  obtain ⟨id, component, clause⟩ := e
  cases clause <;> rfl

theorem Store.clauses_eq_nil_iff (s : Store Q) (component : Component) :
    s.clauses component = [] ↔ s.Forall fun component' _ => component' ≠ component := by
  simp [Store.clauses, Store.entriesOf, Store.Forall]

theorem Store.has_eq_true_iff (s : Store Q) (component : Component) :
    s.has component = true ↔ s.clauses component ≠ [] := by
  simp [Store.has, Store.clauses, Store.entriesOf]

theorem Store.has_eq_false_iff (s : Store Q) (component : Component) :
    s.has component = false ↔ s.clauses component = [] := by
  simp [Store.has, Store.clauses, Store.entriesOf]

theorem Store.Forall.clauses {X : Component → Clause Q → Prop} {s : Store Q} (h : s.Forall X)
    (component : Component) : ∀ clause ∈ s.clauses component, X component clause := by
  intro clause hclause
  obtain ⟨e, he, rfl⟩ := List.mem_map.mp hclause
  obtain ⟨hmem, hcomponent⟩ := List.mem_filter.mp he
  have hX := h e hmem
  rwa [beq_iff_eq.mp hcomponent] at hX

theorem Store.Meets.clauses {P : Policy} {N : Q → Prop} {s : Store Q} (h : s.Meets P N)
    (component : Component) : ∀ clause ∈ s.clauses component, clause.Meets P N :=
  Store.Forall.clauses (X := fun _ clause => clause.Meets P N) h component

/-- The payloads of a store satisfy what its clauses ask of them. -/
theorem Store.Meets.get {P : Policy} {N : Q → Prop} {s : Store Q} (h : s.Meets P N) {X : α → Prop}
    (hp : ∀ c a, c.Meets P N → p? c = some a → X a) (component : Component) :
    ∀ a ∈ s.get p? component, X a := by
  intro a ha
  obtain ⟨c, hc, hca⟩ := List.mem_filterMap.mp ha
  exact hp c a (h.clauses component c hc) hca

section Meets

variable {P : Policy} {N : Q → Prop} {c : Clause Q}

theorem Clause.Meets.source {x : Source Q} (h : c.Meets P N) (hx : c.source? = some x) :
    x.Meets P N := by
  cases c <;> cases hx
  exact h

theorem Clause.Meets.join {x : Join Q} (h : c.Meets P N) (hx : c.join? = some x) :
    x.Meets P N := by
  cases c <;> cases hx
  exact h

theorem Clause.Meets.condition {x : Condition Q} (h : c.Meets P N) (hx : c.condition? = some x) :
    x.Meets P N := by
  cases c <;> cases hx <;> exact h

theorem Clause.Meets.column {x : Column Q} (h : c.Meets P N) (hx : c.column? = some x) :
    x.Meets P N := by
  cases c <;> cases hx <;> exact h

theorem Clause.Meets.order {x : Order} (h : c.Meets P N) (hx : c.order? = some x) : x.Meets P := by
  cases c <;> cases hx
  exact h

theorem Clause.Meets.combine {x : Combine Q} (h : c.Meets P N) (hx : c.combine? = some x) :
    x.Meets P N := by
  cases c <;> cases hx
  exact h

end Meets

/-! ## Payloads by component -/

/-- What the clauses made for a component hold: how it is read and the clause that is made of it. -/
inductive Component.Payload : {α : Type} → Component → (Clause Q → Option α) → (α → Clause Q) → Prop
  | «from» : Payload .from Clause.source? .from
  | join : Payload .join Clause.join? .join
  | deepJoin : Payload .deepJoin Clause.deepJoin? .deepJoin
  | «where» : Payload .where Clause.condition? .where
  | group : Payload .group Clause.column? .group
  | having : Payload .having Clause.condition? .having
  | order : Payload .order Clause.order? .order
  | limit : Payload .limit Clause.limit? .limit
  | select : Payload .select Clause.column? .select
  | aggregate : Payload .aggregate Clause.aggregate? .aggregate
  | union : Payload .union Clause.combine? .union
  | lock : Payload .lock Clause.lock? .lock

/-- The payload is read from every clause of the component's own kind, and determines it. -/
theorem Component.Payload.exists_eq {mk : α → Clause Q} {component : Component}
    (h : component.Payload p? mk) {clause : Clause Q} (hkind : clause.kind = component) :
    ∃ a, clause = mk a ∧ p? clause = some a := by
  cases h <;> cases clause <;> cases hkind <;> exact ⟨_, rfl, rfl⟩

/-! ## Payloads with their nested queries replaced -/

section Map

variable (f : Q → R)

theorem Store.clauses_map (s : Store Q) (component : Component) :
    (s.map f).clauses component = (s.clauses component).map (Clause.map f) :=
  Store.clauses_mapClauses (Clause.map f) s component

theorem Store.has_map (s : Store Q) (component : Component) :
    (s.map f).has component = s.has component :=
  Store.has_mapClauses (Clause.map f) s component

theorem Store.get_map {f : Q → R} (hp : ∀ c, p?' (Clause.map f c) = (p? c).map m) (s : Store Q)
    (component : Component) : (s.map f).get p?' component = (s.get p? component).map m :=
  Store.get_mapClauses hp s component

variable (c : Clause Q)

theorem Clause.source_map : (c.map f).source? = c.source?.map (Source.map f) := by
  cases c <;> rfl

theorem Clause.join_map : (c.map f).join? = c.join?.map (Join.map f) := by
  cases c <;> rfl

theorem Clause.condition_map : (c.map f).condition? = c.condition?.map (Condition.map f) := by
  cases c <;> rfl

theorem Clause.column_map : (c.map f).column? = c.column?.map (Column.map f) := by
  cases c <;> rfl

theorem Clause.combine_map : (c.map f).combine? = c.combine?.map (Combine.map f) := by
  cases c <;> rfl

theorem Clause.aggregate_map : (c.map f).aggregate? = c.aggregate?.map id := by
  cases c <;> rfl

theorem Clause.order_map : (c.map f).order? = c.order?.map id := by
  cases c <;> rfl

theorem Clause.limit_map : (c.map f).limit? = c.limit?.map id := by
  cases c <;> rfl

theorem Clause.lock_map : (c.map f).lock? = c.lock?.map id := by
  cases c <;> rfl

end Map

end SqlSelect
