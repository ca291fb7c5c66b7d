import SqlSelect.Query.Builder

/-!
# Conditions on every part of a query tree

A query copies three kinds of text into the statement as they are: fragments, the operators of
comparisons and the seeds of random orders. `Meets` says of any part of a query that its copied
texts satisfy a policy and that its nested queries satisfy a predicate; `Query.Meets` says the
former of a whole tree. Every statement about query trees is proved by `Query.induction`, which
passes from the queries nested in the clauses of a query to the query itself.
-/

namespace SqlSelect

/-- What is asked of the texts that are copied. -/
structure Policy where
  fragment : Fragment → Prop
  operator : String → Prop
  seed : String → Prop

/-- The policy that asks for nothing. -/
def Policy.any : Policy :=
  ⟨fun _ => True, fun _ => True, fun _ => True⟩

variable {Q R : Type}

section Meets

variable (P : Policy) (N : Q → Prop)

def Source.Meets : Source Q → Prop
  | .table .. => True
  | .raw fragment => P.fragment fragment
  | .query q _ => N q

def Column.Meets : Column Q → Prop
  | .name _ => True
  | .raw fragment => P.fragment fragment
  | .query q _ => N q

def Combine.Meets : Combine Q → Prop
  | .query _ _ q => N q
  | .raw fragment => P.fragment fragment

def Order.Meets : Order → Prop
  | .column .. => True
  | .raw fragment => P.fragment fragment
  | .random seed? => ∀ seed ∈ seed?, P.seed seed

mutual

def Predicate.Meets : Predicate Q → Prop
  | .compare _ operator _ | .compareColumns _ operator _ => P.operator operator
  | .group items => Condition.MeetsAll items
  | .raw fragment => P.fragment fragment
  | .inQuery _ q | .existsQuery q => N q
  | .text .. | .isNull .. | .between .. | .oneOf .. | .custom .. => True

def Condition.Meets : Condition Q → Prop
  | ⟨_, _, p⟩ => p.Meets

def Condition.MeetsAll : List (Condition Q) → Prop
  | [] => True
  | c :: cs => c.Meets ∧ Condition.MeetsAll cs

end

theorem Condition.meetsAll_iff (cs : List (Condition Q)) :
    Condition.MeetsAll P N cs ↔ ∀ c ∈ cs, c.Meets P N := by
  induction cs with
  | nil => simp [Condition.MeetsAll]
  | cons c cs ih => simp [Condition.MeetsAll, ih]

structure Join.Meets (j : Join Q) : Prop where
  table : j.table.Meets P N
  on : Condition.MeetsAll P N j.on

def Clause.Meets : Clause Q → Prop
  | .from s => s.Meets P N
  | .join j => j.Meets P N
  | .where c | .having c => c.Meets P N
  | .group c | .select c => c.Meets P N
  | .order o => o.Meets P
  | .union c => c.Meets P N
  | .deepJoin _ | .limit _ | .aggregate _ | .lock _ => True

/-- Every clause of the store satisfies the policy, and every query nested in one the predicate. -/
def Store.Meets (s : Store Q) : Prop :=
  ∀ e ∈ s.entries, e.clause.Meets P N

end Meets

/-- Every text that the query or a query nested in it copies satisfies the policy. -/
def Query.Meets (P : Policy) : Query → Prop :=
  Query.fold fun s _ => s.Meets P id

/-! ## Nested queries that have been folded -/

section Rules

variable {f : Q → R}

/-- Replacing the nested queries of a predicate keeps the rule by which it is written. -/
theorem Predicate.tag_map (p : Predicate Q) : (p.map f).tag = p.tag := by
  cases p <;> rfl

theorem Predicate.form_map (p : Predicate Q) : (p.map f).form? = p.form? := by
  cases p <;> rfl

theorem Predicate.kind_map (p : Predicate Q) : (p.map f).kind = p.kind := by
  cases p <;> rfl

theorem Condition.predicate_map (c : Condition Q) : (c.map f).predicate = c.predicate.map f := by
  cases c
  rfl

end Rules

section Map

variable (P : Policy) (N : R → Prop) (f : Q → R)

theorem Source.meets_map (s : Source Q) : (s.map f).Meets P N ↔ s.Meets P (N ∘ f) := by
  cases s <;> rfl

theorem Column.meets_map (c : Column Q) : (c.map f).Meets P N ↔ c.Meets P (N ∘ f) := by
  cases c <;> rfl

theorem Combine.meets_map (c : Combine Q) : (c.map f).Meets P N ↔ c.Meets P (N ∘ f) := by
  cases c <;> rfl

mutual

theorem Predicate.meets_map : ∀ p : Predicate Q, (p.map f).Meets P N ↔ p.Meets P (N ∘ f)
  | .group items => by
    simp only [Predicate.map, Predicate.Meets]
    exact Condition.meetsAll_mapList items
  | .compare .. | .text .. | .compareColumns .. | .raw .. | .isNull .. | .between .. | .oneOf ..
  | .inQuery .. | .existsQuery .. | .custom .. => by
    simp only [Predicate.map, Predicate.Meets, Function.comp_apply]

theorem Condition.meets_map : ∀ c : Condition Q, (c.map f).Meets P N ↔ c.Meets P (N ∘ f)
  | ⟨_, _, p⟩ => by
    simp only [Condition.map, Condition.Meets]
    exact Predicate.meets_map p

theorem Condition.meetsAll_mapList : ∀ cs : List (Condition Q),
    Condition.MeetsAll P N (Condition.mapList f cs) ↔ Condition.MeetsAll P (N ∘ f) cs
  | [] => Iff.rfl
  | c :: cs => by
    simp only [Condition.mapList, Condition.MeetsAll]
    exact and_congr (Condition.meets_map c) (Condition.meetsAll_mapList cs)

end

theorem Join.meets_map (j : Join Q) : (j.map f).Meets P N ↔ j.Meets P (N ∘ f) := by
  have ht := Source.meets_map P N f j.table
  have ho := Condition.meetsAll_mapList P N f j.on
  rw [Condition.mapList_eq_map] at ho
  exact ⟨fun h => ⟨ht.mp h.table, ho.mp h.on⟩, fun h => ⟨ht.mpr h.table, ho.mpr h.on⟩⟩

theorem Clause.meets_map (c : Clause Q) : (c.map f).Meets P N ↔ c.Meets P (N ∘ f) := by
  cases c with
  | «from» s => exact Source.meets_map P N f s
  | join j => exact Join.meets_map P N f j
  | «where» c => exact Condition.meets_map P N f c
  | having c => exact Condition.meets_map P N f c
  | group c => exact Column.meets_map P N f c
  | select c => exact Column.meets_map P N f c
  | union c => exact Combine.meets_map P N f c
  | deepJoin d => exact Iff.rfl
  | order o => exact Iff.rfl
  | limit l => exact Iff.rfl
  | aggregate a => exact Iff.rfl
  | lock l => exact Iff.rfl

theorem Store.meets_map (s : Store Q) : (s.map f).Meets P N ↔ s.Meets P (N ∘ f) := by
  simp only [Store.Meets, Store.map, List.forall_mem_map]
  exact forall₂_congr fun e _ => Clause.meets_map P N f e.clause

end Map

section Compose

variable {S : Type} (f : Q → R) (g : R → S)

mutual

theorem Predicate.map_map : ∀ p : Predicate Q, (p.map f).map g = p.map (g ∘ f)
  | .group items => by
    simp only [Predicate.map, Condition.mapList_mapList items]
  | .compare .. | .text .. | .compareColumns .. | .raw .. | .isNull .. | .between .. | .oneOf ..
  | .inQuery .. | .existsQuery .. | .custom .. => by
    simp only [Predicate.map, Function.comp_apply]

theorem Condition.map_map : ∀ c : Condition Q, (c.map f).map g = c.map (g ∘ f)
  | ⟨_, _, p⟩ => by
    simp only [Condition.map, Predicate.map_map p]

theorem Condition.mapList_mapList : ∀ cs : List (Condition Q),
    Condition.mapList g (Condition.mapList f cs) = Condition.mapList (g ∘ f) cs
  | [] => rfl
  | c :: cs => by
    simp only [Condition.mapList, Condition.map_map c, Condition.mapList_mapList cs]

end

theorem Source.map_map (s : Source Q) : (s.map f).map g = s.map (g ∘ f) := by
  cases s <;> rfl

theorem Join.map_map (j : Join Q) : (j.map f).map g = j.map (g ∘ f) := by
  simp only [Join.map, Source.map_map, List.map_map]
  congr 2
  funext c
  exact Condition.map_map f g c

theorem Clause.map_map (c : Clause Q) : (c.map f).map g = c.map (g ∘ f) := by
  cases c with
  | «from» s => exact congrArg Clause.from (Source.map_map f g s)
  | join j => exact congrArg Clause.join (Join.map_map f g j)
  | «where» c => exact congrArg Clause.where (Condition.map_map f g c)
  | having c => exact congrArg Clause.having (Condition.map_map f g c)
  | group c => cases c <;> rfl
  | select c => cases c <;> rfl
  | union c => cases c <;> rfl
  | _ => rfl

theorem Store.map_map (s : Store Q) : (s.map f).map g = s.map (g ∘ f) := by
  simp only [Store.map, List.map_map]
  congr 2
  funext e
  simp only [Function.comp_apply, Entry.map, Clause.map_map]

end Compose

section Identity

mutual

theorem Predicate.map_id : ∀ p : Predicate Q, p.map id = p
  | .group items => by
    simp only [Predicate.map, Condition.mapList_id items]
  | .compare .. | .text .. | .compareColumns .. | .raw .. | .isNull .. | .between .. | .oneOf ..
  | .inQuery .. | .existsQuery .. | .custom .. => by
    simp only [Predicate.map, id_eq]

theorem Condition.map_id : ∀ c : Condition Q, c.map id = c
  | ⟨_, _, p⟩ => by
    simp only [Condition.map, Predicate.map_id p]

theorem Condition.mapList_id : ∀ cs : List (Condition Q), Condition.mapList id cs = cs
  | [] => rfl
  | c :: cs => by
    simp only [Condition.mapList, Condition.map_id c, Condition.mapList_id cs]

end

theorem Source.map_id (s : Source Q) : s.map id = s := by
  cases s <;> rfl

theorem Join.map_id (j : Join Q) : j.map id = j := by
  rw [Join.map, Source.map_id, ← Condition.mapList_eq_map, Condition.mapList_id]

theorem Clause.map_id (c : Clause Q) : c.map id = c := by
  cases c with
  | «from» s => exact congrArg Clause.from s.map_id
  | join j => exact congrArg Clause.join j.map_id
  | «where» c => exact congrArg Clause.where c.map_id
  | having c => exact congrArg Clause.having c.map_id
  | group c => cases c <;> rfl
  | select c => cases c <;> rfl
  | union c => cases c <;> rfl
  | _ => rfl

theorem Store.map_id (s : Store Q) : s.map id = s := by
  have hentry : (Entry.map id : Entry Q → Entry Q) = id := by
    funext e
    exact congrArg (Entry.mk e.id e.component) e.clause.map_id
  rw [Store.map, hentry, List.map_id]

end Identity

section Congruence

variable {P : Policy} {f g : Q → R}

theorem Source.map_congr {s : Source Q} (h : s.Meets P fun q => f q = g q) : s.map f = s.map g := by
  cases s with
  | query q alias? => exact congrArg (Source.query · alias?) h
  | table _ _ => rfl
  | raw _ => rfl

theorem Column.map_congr {c : Column Q} (h : c.Meets P fun q => f q = g q) : c.map f = c.map g := by
  cases c with
  | query q label => exact congrArg (Column.query · label) h
  | name _ => rfl
  | raw _ => rfl

theorem Combine.map_congr {c : Combine Q} (h : c.Meets P fun q => f q = g q) :
    c.map f = c.map g := by
  cases c with
  | query operation all q => exact congrArg (Combine.query operation all) h
  | raw _ => rfl

mutual

theorem Predicate.map_congr : ∀ {p : Predicate Q}, (p.Meets P fun q => f q = g q) →
    p.map f = p.map g
  | .group items, h => by
    simp only [Predicate.Meets] at h
    simp only [Predicate.map, Condition.mapList_congr h]
  | .inQuery _ q, h | .existsQuery q, h => by
    simp only [Predicate.Meets] at h
    simp only [Predicate.map, h]
  | .compare .., _ | .text .., _ | .compareColumns .., _ | .raw .., _ | .isNull .., _
  | .between .., _ | .oneOf .., _ | .custom .., _ => by
    simp only [Predicate.map]

theorem Condition.map_congr : ∀ {c : Condition Q}, (c.Meets P fun q => f q = g q) →
    c.map f = c.map g
  | ⟨_, _, p⟩, h => by
    simp only [Condition.Meets] at h
    simp only [Condition.map, Predicate.map_congr h]

theorem Condition.mapList_congr : ∀ {cs : List (Condition Q)},
    (Condition.MeetsAll P (fun q => f q = g q) cs) → Condition.mapList f cs = Condition.mapList g cs
  | [], _ => rfl
  | c :: cs, h => by
    simp only [Condition.MeetsAll] at h
    simp only [Condition.mapList, Condition.map_congr h.1, Condition.mapList_congr h.2]

end

theorem Join.map_congr {j : Join Q} (h : j.Meets P fun q => f q = g q) : j.map f = j.map g := by
  have hon := Condition.mapList_congr h.on
  rw [Condition.mapList_eq_map, Condition.mapList_eq_map] at hon
  rw [Join.map, Join.map, Source.map_congr h.table, hon]

theorem Clause.map_congr {c : Clause Q} (h : c.Meets P fun q => f q = g q) : c.map f = c.map g := by
  cases c with
  | «from» s => exact congrArg Clause.from (Source.map_congr h)
  | join j => exact congrArg Clause.join (Join.map_congr h)
  | «where» c => exact congrArg Clause.where (Condition.map_congr h)
  | having c => exact congrArg Clause.having (Condition.map_congr h)
  | group c => exact congrArg Clause.group (Column.map_congr h)
  | select c => exact congrArg Clause.select (Column.map_congr h)
  | union c => exact congrArg Clause.union (Combine.map_congr h)
  | _ => rfl

/-- Functions that agree on the nested queries make the same of a store. -/
theorem Store.map_congr {s : Store Q} (h : s.Meets P fun q => f q = g q) : s.map f = s.map g := by
  rw [Store.map, Store.map]
  congr 1
  apply List.map_congr_left
  intro e he
  rw [Entry.map, Entry.map, Clause.map_congr (h e he)]

end Congruence

/-- A tree satisfies a policy when the clauses of its root do and the nested trees do. -/
theorem Query.meets_iff (P : Policy) (q : Query) :
    q.Meets P ↔ q.clauses.Meets P (Query.Meets P) := by
  rw [Query.Meets, Query.fold_eq]
  exact Store.meets_map P id _ q.clauses

/-! ## Queries that are built clause by clause -/

/-- The condition holds of every clause with the component that it is stored under. -/
def Store.Forall (X : Component → Clause Q → Prop) (s : Store Q) : Prop :=
  ∀ e ∈ s.entries, X e.component e.clause

namespace Store.Forall

variable {X : Component → Clause Q → Prop} {s : Store Q} {component : Component}
  {clause : Clause Q}

theorem add (h : s.Forall X) (hc : X component clause) : (s.add component clause).Forall X := by
  intro e he
  rcases List.mem_append.mp he with he | he
  · exact h e he
  · rw [List.mem_singleton.mp he]
    exact hc

theorem replace (h : s.Forall X) (hc : X component clause) :
    (s.replace component clause).Forall X :=
  add (fun e he => h e (List.mem_filter.mp he).1) hc

end Store.Forall

namespace Store.Meets

variable {P : Policy} {N : Q → Prop} {s : Store Q} {clause : Clause Q}

theorem empty : Store.Meets P N (⟨[], 0⟩ : Store Q) :=
  fun _ he => absurd he List.not_mem_nil

theorem add (h : s.Meets P N) (hc : clause.Meets P N) (component : Component) :
    (s.add component clause).Meets P N :=
  Store.Forall.add (X := fun _ clause => clause.Meets P N) h hc

theorem replace (h : s.Meets P N) (hc : clause.Meets P N) (component : Component) :
    (s.replace component clause).Meets P N :=
  Store.Forall.replace (X := fun _ clause => clause.Meets P N) h hc

end Store.Meets

namespace Query.Meets

variable {P : Policy} {q : Query} {clause : Clause Query}

theorem empty : Query.empty.Meets P :=
  (Query.meets_iff P _).mpr Store.Meets.empty

theorem push (h : q.Meets P) (hc : clause.Meets P (Query.Meets P)) : (q.push clause).Meets P :=
  (Query.meets_iff P _).mpr (((Query.meets_iff P q).mp h).add hc clause.kind)

theorem set (h : q.Meets P) (hc : clause.Meets P (Query.Meets P)) : (q.set clause).Meets P :=
  (Query.meets_iff P _).mpr (((Query.meets_iff P q).mp h).replace hc clause.kind)

end Query.Meets

/-- A query with a nested one, a copied fragment and a name that holds a `?`. -/
def Query.sample (v w : Value) : Query :=
  let nested := ((Query.empty.select ["x"]).fromTable "u").filter "k" "=" v
  ((Query.empty.fromTable "a?").whereCondition (.ofPredicate (.inQuery "id" nested))).whereCondition
    (.ofPredicate (.raw ⟨"f(?, '?')", [w]⟩))

theorem Query.sample_meets {P : Policy} (hop : P.operator "=") {v w : Value}
    (hf : P.fragment ⟨"f(?, '?')", [w]⟩) : (Query.sample v w).Meets P := by
  have hcompare : (Predicate.compare "k" "=" v : Predicate Query).Meets P (Query.Meets P) := by
    rw [Predicate.Meets]
    exact hop
  have hnested : (((Query.empty.select ["x"]).fromTable "u").filter "k" "=" v).Meets P :=
    Query.Meets.push (Query.Meets.set (Query.Meets.push .empty (by trivial)) (by trivial)) hcompare
  exact Query.Meets.push (Query.Meets.push (Query.Meets.set .empty (by trivial)) hnested) hf

/-! ## Induction over query trees -/

section Induction

-- every theorem of the block calls the first one, which alone applies `step`
set_option linter.unusedSectionVars false

variable {motive : Query → Prop} (step : ∀ q : Query, q.clauses.Meets .any motive → motive q)
include step

mutual

theorem Query.induction : ∀ q : Query, motive q
  | ⟨⟨entries, nextId⟩, isDistinct⟩ =>
    step ⟨⟨entries, nextId⟩, isDistinct⟩ (induction_entries entries)

theorem Query.induction_entries :
    ∀ es : List (Entry Query), ∀ e ∈ es, e.clause.Meets .any motive
  | [] => by
    intro e he
    cases he
  | e :: es => by
    have he := induction_entry e
    have hes := induction_entries es
    intro e' he'
    rcases List.mem_cons.mp he' with rfl | hmem
    · exact he
    · exact hes e' hmem

theorem Query.induction_entry : ∀ e : Entry Query, e.clause.Meets .any motive
  | ⟨_, _, clause⟩ => induction_clause clause

theorem Query.induction_clause : ∀ c : Clause Query, c.Meets .any motive
  | .from s => induction_source s
  | .join j => induction_join j
  | .where c | .having c => induction_condition c
  | .group c | .select c => induction_column c
  | .union c => induction_combine c
  | .order o => by cases o <;> simp [Clause.Meets, Order.Meets, Policy.any]
  | .deepJoin _ | .limit _ | .aggregate _ | .lock _ => trivial

theorem Query.induction_source : ∀ s : Source Query, s.Meets .any motive
  | .query q _ => induction q
  | .table .. | .raw _ => trivial

theorem Query.induction_join : ∀ j : Join Query, j.Meets .any motive
  | ⟨_, table, on⟩ => ⟨induction_source table, induction_conditions on⟩

theorem Query.induction_column : ∀ c : Column Query, c.Meets .any motive
  | .query q _ => induction q
  | .name _ | .raw _ => trivial

theorem Query.induction_combine : ∀ c : Combine Query, c.Meets .any motive
  | .query _ _ q => induction q
  | .raw _ => trivial

theorem Query.induction_conditions :
    ∀ cs : List (Condition Query), Condition.MeetsAll .any motive cs
  | [] => trivial
  | c :: cs => ⟨induction_condition c, induction_conditions cs⟩

theorem Query.induction_condition : ∀ c : Condition Query, c.Meets .any motive
  | ⟨_, _, p⟩ => induction_predicate p

theorem Query.induction_predicate : ∀ p : Predicate Query, p.Meets .any motive
  | .group items => induction_conditions items
  | .inQuery _ q | .existsQuery q => induction q
  | .compare .. | .text .. | .compareColumns .. | .raw .. | .isNull .. | .between .. | .oneOf ..
  | .custom .. => trivial

end

end Induction

/-- What holds of everything holds of what is nested in a clause. -/
theorem Clause.meets_any {N : Q → Prop} (h : ∀ q, N q) (c : Clause Q) : c.Meets .any N := by
  have hN : N = (fun _ : Query => True) ∘ fun _ => Query.empty :=
    funext fun q => eq_true (h q)
  rw [hN, ← Clause.meets_map]
  exact Query.induction_clause (fun _ _ => trivial) _

theorem Store.meets_any {N : Q → Prop} (h : ∀ q, N q) (s : Store Q) : s.Meets .any N :=
  fun e _ => Clause.meets_any h e.clause

theorem Query.meets_any (q : Query) : q.Meets .any :=
  Query.induction (fun q h => (Query.meets_iff .any q).mpr h) q

section Modus

variable {P : Policy} {M N : Q → Prop}

theorem Source.Meets.mp {s : Source Q} (h : s.Meets .any fun q => M q → N q)
    (hs : s.Meets P M) : s.Meets P N := by
  cases s with
  | query q _ => exact h hs
  | table _ _ => trivial
  | raw _ => exact hs

theorem Column.Meets.mp {c : Column Q} (h : c.Meets .any fun q => M q → N q)
    (hc : c.Meets P M) : c.Meets P N := by
  cases c with
  | query q _ => exact h hc
  | name _ => trivial
  | raw _ => exact hc

theorem Combine.Meets.mp {c : Combine Q} (h : c.Meets .any fun q => M q → N q)
    (hc : c.Meets P M) : c.Meets P N := by
  cases c with
  | query _ _ q => exact h hc
  | raw _ => exact hc

mutual

theorem Predicate.Meets.mp : ∀ {p : Predicate Q}, (p.Meets .any fun q => M q → N q) →
    p.Meets P M → p.Meets P N
  | .group items, h, hp => by
    simp only [Predicate.Meets] at h hp ⊢
    exact Condition.MeetsAll.mp h hp
  | .inQuery _ q, h, hp | .existsQuery q, h, hp => by
    simp only [Predicate.Meets] at h hp ⊢
    exact h hp
  | .compare .., _, hp | .compareColumns .., _, hp | .raw .., _, hp => by
    simpa only [Predicate.Meets] using hp
  | .text .., _, _ | .isNull .., _, _ | .between .., _, _ | .oneOf .., _, _ | .custom .., _, _ => by
    simp only [Predicate.Meets]

theorem Condition.Meets.mp : ∀ {c : Condition Q}, (c.Meets .any fun q => M q → N q) →
    c.Meets P M → c.Meets P N
  | ⟨_, _, p⟩, h, hc => by
    simp only [Condition.Meets] at h hc ⊢
    exact Predicate.Meets.mp h hc

theorem Condition.MeetsAll.mp : ∀ {cs : List (Condition Q)},
    (Condition.MeetsAll .any (fun q => M q → N q) cs) →
    Condition.MeetsAll P M cs → Condition.MeetsAll P N cs
  | [], _, _ => trivial
  | c :: cs, h, hcs => by
    simp only [Condition.MeetsAll] at h hcs ⊢
    exact ⟨Condition.Meets.mp h.1 hcs.1, Condition.MeetsAll.mp h.2 hcs.2⟩

end

theorem Clause.Meets.mp {c : Clause Q} (h : c.Meets .any fun q => M q → N q)
    (hc : c.Meets P M) : c.Meets P N := by
  cases c with
  | «from» s => exact Source.Meets.mp h hc
  | join j => exact ⟨h.table.mp hc.table, h.on.mp hc.on⟩
  | «where» c => exact Condition.Meets.mp h hc
  | having c => exact Condition.Meets.mp h hc
  | group c => exact Column.Meets.mp h hc
  | select c => exact Column.Meets.mp h hc
  | union c => exact Combine.Meets.mp h hc
  | order o => exact hc
  | deepJoin d => trivial
  | limit l => trivial
  | aggregate a => trivial
  | lock l => trivial

theorem Store.Meets.mp {s : Store Q} (h : s.Meets .any fun q => M q → N q) (hs : s.Meets P M) :
    s.Meets P N :=
  fun e he => Clause.Meets.mp (h e he) (hs e he)

theorem Store.Meets.mono (h : ∀ q, M q → N q) {s : Store Q} (hs : s.Meets .any M) :
    s.Meets .any N :=
  (Store.meets_any h s).mp hs

end Modus

/-- Induction over the trees that satisfy a policy. -/
theorem Query.Meets.induction {P : Policy} {motive : Query → Prop}
    (step : ∀ q : Query, q.clauses.Meets P motive → motive q) (q : Query) (h : q.Meets P) :
    motive q := by
  induction q using Query.induction with
  | step q ih => exact step q (ih.mp ((Query.meets_iff P q).mp h))

end SqlSelect
