import SqlSelect.Proofs.Refinement

/-!
# What a query binds and refuses

The text of a statement decides neither which values are bound nor which error ends a compilation: a
writer looks at the texts it has been given only to put them together. What is left of a query
without its text is its ledger: the values it binds and the faults it meets, in the order in which
the components are written. Settling a ledger collects the values, or gives the first fault.

`Posts m l` says that the action `m` does what the ledger `l` says, whatever text it returns. The
ledgers below know no dialect. They only know whether set operations are written.
-/

namespace SqlSelect

/-- The values that are bound and the faults that are met, in order. -/
abbrev Ledger := List (Except CompileError Value)

namespace Ledger

/-- All values, or the first fault. -/
def settle (l : Ledger) : Except CompileError (List Value) :=
  l.mapM id

theorem settle_append (l l' : Ledger) :
    settle (l ++ l') = do return (← settle l) ++ (← settle l') :=
  List.mapM_append

theorem settle_map_ok (vs : List Value) : settle (vs.map .ok) = .ok vs := by
  induction vs with
  | nil => rfl
  | cons v vs ih =>
    rw [settle, List.map_cons, List.mapM_cons, ← settle, ih]
    rfl

/-- Every fault of the ledger satisfies `E`. -/
def Within (E : CompileError → Prop) (l : Ledger) : Prop :=
  ∀ e, .error e ∈ l → E e

section Within

variable {E : CompileError → Prop} {l l' : Ledger}

theorem within_nil : Within E [] :=
  fun _ he => absurd he List.not_mem_nil

theorem within_fault (e : CompileError) : Within E [.error e] ↔ E e := by
  constructor
  · intro h
    exact h e List.mem_cons_self
  · intro he e' he'
    cases List.mem_singleton.mp he'
    exact he

theorem within_map_ok (vs : List Value) : Within E (vs.map .ok) := by
  intro e he
  obtain ⟨v, _, hv⟩ := List.mem_map.mp he
  cases hv

theorem within_append : Within E (l ++ l') ↔ Within E l ∧ Within E l' := by
  constructor
  · intro h
    exact ⟨fun e he => h e (List.mem_append_left _ he),
      fun e he => h e (List.mem_append_right _ he)⟩
  · rintro ⟨h, h'⟩ e he
    rcases List.mem_append.mp he with he | he
    · exact h e he
    · exact h' e he

theorem within_flatMap {α : Type} {f : α → Ledger} {xs : List α} :
    Within E (xs.flatMap f) ↔ ∀ x ∈ xs, Within E (f x) := by
  constructor
  · intro h x hx e he
    exact h e (List.mem_flatMap.mpr ⟨x, hx, he⟩)
  · intro h e he
    obtain ⟨x, hx, he⟩ := List.mem_flatMap.mp he
    exact h x hx e he

/-- A ledger without faults settles, and the fault that keeps another from settling is one of its
own. -/
theorem settle_cases (l : Ledger) :
    (∃ vs, settle l = .ok vs ∧ Within (fun _ => False) l) ∨
      ∃ e, settle l = .error e ∧ .error e ∈ l := by
  induction l with
  | nil => exact Or.inl ⟨[], rfl, within_nil⟩
  | cons x l ih =>
    have hcons : settle (x :: l) = do return (← x) :: (← settle l) := List.mapM_cons
    cases x with
    | error e => exact Or.inr ⟨e, hcons, List.mem_cons_self⟩
    | ok v =>
      rcases ih with ⟨vs, hvs, hl⟩ | ⟨e, he, hmem⟩
      · refine Or.inl ⟨v :: vs, ?_, within_append.mpr ⟨within_map_ok [v], hl⟩⟩
        rw [hcons, hvs]
        rfl
      · refine Or.inr ⟨e, ?_, List.mem_cons_of_mem _ hmem⟩
        rw [hcons, he]
        rfl

end Within

end Ledger

/-! ## Actions that do what a ledger says -/

/-- The action binds the values of the ledger, or fails with its first fault. -/
def Posts {α : Type} (m : CompileM α) (l : Ledger) : Prop :=
  ∃ w : Emitted α, m = w.run ∧ w.outcome.map (fun _ => w.values) = l.settle

namespace Posts

variable {α β γ : Type} {m : CompileM α} {l l' : Ledger}

theorem pure (a : α) : Posts (Pure.pure a : CompileM α) [] :=
  ⟨_, Emitted.run_pure a, rfl⟩

theorem throw (e : CompileError) : Posts (MonadExcept.throw e : CompileM α) [.error e] :=
  ⟨_, Emitted.run_throw e, rfl⟩

/-- What comes second may use the first result in its text only. -/
theorem bind {k : α → CompileM β} (hm : Posts m l) (hk : ∀ a, Posts (k a) l') :
    Posts (m >>= k) (l ++ l') := by
  obtain ⟨⟨outcome, vs, es⟩, rfl, hl⟩ := hm
  cases outcome with
  | error e =>
    refine ⟨_, Emitted.run_error_bind e vs es k, ?_⟩
    rw [Ledger.settle_append, ← hl]
    rfl
  | ok a =>
    obtain ⟨w, hw, hl'⟩ := hk a
    refine ⟨_, Emitted.run_ok_bind a vs es hw, ?_⟩
    rw [Ledger.settle_append, ← hl, ← hl']
    cases w.outcome <;> rfl

theorem map (h : Posts m l) (k : α → β) : Posts (do return k (← m)) l := by
  have hbind := h.bind fun a => pure (k a)
  rwa [List.append_nil] at hbind

theorem bindValue (v : Value) : Posts (CompileM.bindValue v) [.ok v] :=
  ⟨_, Emitted.run_bindValue v, rfl⟩

theorem record (es : List Event) : Posts (CompileM.record es) [] :=
  ⟨_, Emitted.run_record es, rfl⟩

theorem bindValues (vs : List Value) : Posts (CompileM.bindValues vs) (vs.map .ok) :=
  ⟨_, Emitted.run_bindValues vs, (Ledger.settle_map_ok vs).symm⟩

theorem mapM {f : α → CompileM β} {g : α → Ledger} {xs : List α}
    (h : ∀ x ∈ xs, Posts (f x) (g x)) : Posts (xs.mapM f) (xs.flatMap g) := by
  induction xs with
  | nil => exact pure []
  | cons x xs ih =>
    have hxs := ih fun y hy => h y (List.mem_cons_of_mem _ hy)
    rw [List.mapM_cons, List.flatMap_cons]
    exact (h x List.mem_cons_self).bind fun b => hxs.map (b :: ·)

/-- The same for items that are changed before they are written. -/
theorem mapM_map {f : α → CompileM β} {k : γ → α} {g : γ → Ledger} {xs : List γ}
    (h : ∀ x ∈ xs, Posts (f (k x)) (g x)) : Posts ((xs.map k).mapM f) (xs.flatMap g) := by
  rw [List.mapM_map]
  exact mapM h

theorem nil : Posts (([] : List (CompileM α)).mapM id) [] :=
  pure []

/-- Two lists of actions, one after the other. -/
theorem append {ms ms' : List (CompileM α)} (h : Posts (ms.mapM id) l)
    (h' : Posts (ms'.mapM id) l') : Posts ((ms ++ ms').mapM id) (l ++ l') := by
  rw [List.mapM_append]
  exact h.bind fun as => h'.map (as ++ ·)

theorem cons {ms : List (CompileM α)} (h : Posts m l) (hs : Posts (ms.mapM id) l') :
    Posts ((m :: ms).mapM id) (l ++ l') := by
  rw [List.mapM_cons]
  exact h.bind fun a => hs.map (a :: ·)

end Posts

/-! ## The ledger of a query -/

/-- The values of a fragment, if it has as many marks. -/
def Fragment.ledger (f : Fragment) : Ledger :=
  if Placeholder.count f.sql = f.bindings.length then f.bindings.map .ok
  else [.error (.placeholderMismatch f.bindings.length (Placeholder.count f.sql))]

def Source.ledger : Source Ledger → Ledger
  | .table .. => []
  | .raw fragment => fragment.ledger
  | .query l _ => l

def Column.ledger : Column Ledger → Ledger
  | .name _ => []
  | .raw fragment => fragment.ledger
  | .query l _ => l

def Combine.ledger : Combine Ledger → Ledger
  | .query _ _ l => l
  | .raw fragment => fragment.ledger

def Order.ledger : Order → Ledger
  | .raw fragment => fragment.ledger
  | .column .. | .random _ => []

/-- A number that is bound. -/
def numberLedger (n? : Option UInt32) : Ledger :=
  n?.toList.map fun n => .ok (toValue n)

def Limit.ledger (l : Limit) : Ledger :=
  numberLedger l.effective? ++ numberLedger l.offset?

mutual

def Predicate.ledger : Predicate Ledger → Ledger
  | .compare _ _ value => [.ok value]
  | .text _ kind value true => [.ok (.text (kind.pattern value))]
  | .text _ kind value false => [.ok (.text (Text.lowercase (kind.pattern value)))]
  | .group items => Condition.ledgerAll items
  | .raw fragment => fragment.ledger
  | .between _ lower upper => [.ok lower, .ok upper]
  | .oneOf _ values => values.map .ok
  | .inQuery _ l | .existsQuery l => l
  | .custom tag _ _ => [.error (customFault tag)]
  | .compareColumns .. | .isNull _ => []

def Condition.ledger : Condition Ledger → Ledger
  | ⟨_, _, p⟩ => p.ledger

def Condition.ledgerAll : List (Condition Ledger) → Ledger
  | [] => []
  | c :: cs => c.ledger ++ Condition.ledgerAll cs

end

theorem Condition.ledgerAll_eq_flatMap (cs : List (Condition Ledger)) :
    Condition.ledgerAll cs = cs.flatMap Condition.ledger := by
  induction cs with
  | nil => rfl
  | cons c cs ih => rw [Condition.ledgerAll, ih, List.flatMap_cons]

def Join.ledger (j : Join Ledger) : Ledger :=
  j.table.ledger ++ j.on.flatMap Condition.ledger

def Clause.ledger : Clause Ledger → Ledger
  | .from s => s.ledger
  | .join j => j.ledger
  | .where c | .having c => c.ledger
  | .group c | .select c => c.ledger
  | .order o => o.ledger
  | .limit l => l.ledger
  | .union c => c.ledger
  | .deepJoin _ | .aggregate _ | .lock _ => []

namespace Component

/-- A statement has one source, one aggregate, one limit and one lock at most. -/
def isSingle : Component → Bool
  | .from | .aggregate | .limit | .lock => true
  | _ => false

/-- The components in the order in which they are written. -/
def inWritingOrder : List Component :=
  [.aggregate, .select, .from, .join, .where, .group, .having, .order, .limit, .union, .lock]

end Component

namespace Store

variable {Q : Type}

/-- The first clause of a component that is of another kind. -/
def misplaced? (s : Store Q) (component : Component) : Option (Clause Q) :=
  (s.clauses component).find? (·.kind != component)

/-- The clauses that are written of a component: all, or the first one only. -/
def written (s : Store Q) (component : Component) : List (Clause Q) :=
  if component.isSingle then (s.clauses component).take 1 else s.clauses component

/-- Whether a component is written at all: an aggregate takes the place of the projection, and a
restriction needs a source. -/
def writes (unions : Bool) (s : Store Q) : Component → Bool
  | .select => !s.has .aggregate
  | .where => s.has .from
  | .union => unions
  | .deepJoin => false
  | _ => true

/-- Reading a component checks all its clauses before any of them is written. -/
def componentLedger (s : Store Ledger) (component : Component) : Ledger :=
  match s.misplaced? component with
  | some clause => [.error (.invalidClause component.name clause.kind.name)]
  | none => (s.written component).flatMap Clause.ledger

theorem componentLedger_eq_nil {s : Store Ledger} {component : Component}
    (h : s.clauses component = []) : s.componentLedger component = [] := by
  unfold componentLedger misplaced? written
  simp [h]

/-- The ledger of a query whose deep joins are expanded. -/
def ledger (unions : Bool) (s : Store Ledger) : Ledger :=
  Component.inWritingOrder.flatMap fun component =>
    if s.writes unions component then s.componentLedger component else []

end Store

/-- The ledger of a query tree. A query whose deep joins cannot be expanded is a fault. -/
def Query.ledger (x : Expander) (unions : Bool) : Query → Ledger :=
  Query.fold fun s _ =>
    match (x.expand s).failure? with
    | some e => [.error e]
    | none => (x.expand s).store.ledger unions

end SqlSelect
