import SqlSelect.Compiler.Basic
import SqlSelect.Proofs.Tree

/-!
# What expansion looks at

Expanding deep joins reads the kinds of clauses, the deep joins and the names of sources, and it
adds joins that hold no nested query. So it commutes with every change of clauses that keeps those,
in particular with replacing the nested queries, and it keeps every condition on the parts of a
query that allows the operator `=`.
-/

namespace SqlSelect

variable {Q R : Type}

/-- The store with every clause changed in its place. -/
def Store.mapClauses (φ : Clause Q → Clause R) (s : Store Q) : Store R :=
  ⟨s.entries.map fun e => ⟨e.id, e.component, φ e.clause⟩, s.nextId⟩

def Expansion.mapClauses (φ : Clause Q → Clause R) (x : Expansion Q) : Expansion R :=
  ⟨x.store.mapClauses φ, x.events, x.failure?⟩

/-- A change of clauses that expansion does not see. -/
structure Clause.Transparent (φ : Clause Q → Clause R) : Prop where
  kind_eq : ∀ c, (φ c).kind = c.kind
  deepJoin_eq : ∀ c, (φ c).deepJoin? = c.deepJoin?
  name_eq : ∀ c, (φ c).source?.map Source.name? = c.source?.map Source.name?
  join_eq : ∀ (kind : JoinKind) (link : Link),
    φ (.join (link.toJoin kind)) = .join (link.toJoin kind)

theorem Store.clauses_mapClauses (φ : Clause Q → Clause R) (s : Store Q) (component : Component) :
    (s.mapClauses φ).clauses component = (s.clauses component).map φ := by
  simp only [Store.clauses, Store.entriesOf, Store.mapClauses, List.filter_map, List.map_map]
  rfl

theorem Store.erase_mapClauses (φ : Clause Q → Clause R) (s : Store Q) (id : Nat) :
    (s.mapClauses φ).erase id = (s.erase id).mapClauses φ := by
  simp only [Store.erase, Store.mapClauses, List.eraseP_map]
  rfl

section Transparent

variable {φ : Clause Q → Clause R} (h : Clause.Transparent φ)
include h

theorem Store.deepJoins_mapClauses (s : Store Q) : (s.mapClauses φ).deepJoins = s.deepJoins := by
  simp only [Store.deepJoins, Store.entriesOf, Store.mapClauses, List.filter_map, List.mapM_map]
  congr 1
  funext e
  simp only [Function.comp_apply, h.deepJoin_eq, h.kind_eq]

theorem Store.rootName_mapClauses (s : Store Q) : (s.mapClauses φ).rootName? = s.rootName? := by
  simp only [Store.rootName?, Store.getFirst?, Store.clauses_mapClauses, List.findSome?_map]
  induction s.clauses .from with
  | nil => rfl
  | cons c cs ih =>
    have hname := h.name_eq c
    simp only [List.findSome?_cons, Function.comp_apply]
    cases hc : c.source? with
    | none =>
      rw [hc, Option.map_none, Option.map_eq_none_iff] at hname
      rw [hname]
      exact ih
    | some source =>
      rw [hc, Option.map_some, Option.map_eq_some_iff] at hname
      obtain ⟨source', hsource, hn⟩ := hname
      rw [hsource]
      exact hn

theorem Store.addChain_mapClauses (s : Store Q) (kind : JoinKind) (links : List Link) :
    (s.mapClauses φ).addChain kind links = (s.addChain kind links).mapClauses φ := by
  induction links generalizing s with
  | nil => rfl
  | cons link links ih =>
    have hadd : (s.mapClauses φ).add .join (.join (link.toJoin kind)) =
        (s.add .join (.join (link.toJoin kind))).mapClauses φ := by
      simp only [Store.add, Store.mapClauses, List.map_append, List.map_cons, List.map_nil,
        h.join_eq]
    simp only [Store.addChain, List.foldl_cons] at ih ⊢
    rw [hadd]
    exact ih _

theorem Expander.chain_mapClauses (x : Expander) (s : Store Q) (d : DeepJoin) :
    x.chain (s.mapClauses φ) d = x.chain s d := by
  rw [Expander.chain, Expander.chain, Store.rootName_mapClauses h]

theorem Expander.expandEach_mapClauses (x : Expander) (s : Store Q)
    (triggers : List (Nat × DeepJoin)) :
    x.expandEach (s.mapClauses φ) triggers = (x.expandEach s triggers).mapClauses φ := by
  induction triggers generalizing s with
  | nil => rfl
  | cons t ts ih =>
    obtain ⟨id, d⟩ := t
    simp only [Expander.expandEach, Expander.chain_mapClauses h]
    cases x.chain s d with
    | error e => rfl
    | ok links =>
      simp only [Store.addChain_mapClauses h, Store.erase_mapClauses, ih]
      rfl

/-- Expansion commutes with a change of clauses that it does not see. -/
theorem Expander.expand_mapClauses (x : Expander) (s : Store Q) :
    x.expand (s.mapClauses φ) = (x.expand s).mapClauses φ := by
  unfold Expander.expand
  rw [Store.deepJoins_mapClauses h]
  cases s.deepJoins with
  | error e => rfl
  | ok triggers => exact Expander.expandEach_mapClauses h x s triggers

theorem Compiler.expand_mapClauses (c : Compiler) (s : Store Q) :
    c.expand (s.mapClauses φ) = (c.expand s).mapClauses φ := by
  unfold Compiler.expand
  split
  · exact Expander.expand_mapClauses h c.expander s
  · rfl

end Transparent

theorem Source.name_map (f : Q → R) (s : Source Q) : (s.map f).name? = s.name? := by
  cases s with
  | table name alias? => cases alias? <;> rfl
  | raw fragment => rfl
  | query q alias? => cases alias? <;> rfl

theorem Clause.transparent_map (f : Q → R) : Clause.Transparent (Clause.map f) where
  kind_eq c := by cases c <;> rfl
  deepJoin_eq c := by cases c <;> rfl
  name_eq c := by
    cases c with
    | «from» s => exact congrArg some (Source.name_map f s)
    | _ => rfl
  join_eq kind link := by
    simp [Clause.map, Link.toJoin, Join.onColumns, Join.map, Source.map, Condition.compareColumns,
      Condition.ofPredicate, Condition.map, Predicate.map]

/-- Nested queries can be replaced before or after expansion. -/
theorem Expander.expand_map (x : Expander) (f : Q → R) (s : Store Q) :
    x.expand (s.map f) = (x.expand s).mapClauses (Clause.map f) :=
  Expander.expand_mapClauses (Clause.transparent_map f) x s

theorem Compiler.expand_map (c : Compiler) (f : Q → R) (s : Store Q) :
    c.expand (s.map f) = (c.expand s).mapClauses (Clause.map f) :=
  Compiler.expand_mapClauses (Clause.transparent_map f) c s

/-! ## Conditions on clauses -/

section Forall

variable {X : Component → Clause Q → Prop}
  (hX : ∀ (kind : JoinKind) (link : Link), X .join (.join (link.toJoin kind)))

theorem Store.Forall.erase {s : Store Q} (h : s.Forall X) (id : Nat) : (s.erase id).Forall X :=
  fun e he => h e (List.mem_of_mem_eraseP he)

include hX in
theorem Store.Forall.addChain {s : Store Q} (h : s.Forall X) (kind : JoinKind)
    (links : List Link) : (s.addChain kind links).Forall X := by
  induction links generalizing s with
  | nil => exact h
  | cons link links ih => exact ih (h.add (hX kind link))

/-- Joins are added only for deep joins with a path. -/
theorem Store.Forall.expandEach_of_segments {s : Store Q} (h : s.Forall X) (x : Expander)
    {triggers : List (Nat × DeepJoin)}
    (hX : ∀ t ∈ triggers, t.2.segments ≠ [] →
      ∀ (kind : JoinKind) (link : Link), X .join (.join (link.toJoin kind))) :
    (x.expandEach s triggers).store.Forall X := by
  induction triggers generalizing s with
  | nil => exact h
  | cons t ts ih =>
    obtain ⟨id, d⟩ := t
    obtain ⟨hd, hts⟩ := List.forall_mem_cons.mp hX
    unfold Expander.expandEach
    split
    · exact h
    · rename_i links hchain
      refine ih (Store.Forall.erase ?_ id) hts
      by_cases hpath : d.segments = []
      · simp only [Expander.chain, hpath, List.isEmpty_nil, if_true, Except.ok.injEq] at hchain
        rw [← hchain]
        exact h
      · exact h.addChain (hd hpath) d.kind links

include hX in
/-- Expansion adds the joins of links and no other clause. -/
theorem Store.Forall.expand {s : Store Q} (h : s.Forall X) (x : Expander) :
    (x.expand s).store.Forall X := by
  unfold Expander.expand
  split
  · exact h
  · exact h.expandEach_of_segments x fun _ _ _ => hX

end Forall

section Meets

variable {P : Policy} {N : Q → Prop} (hop : P.operator "=")
include hop

/-- The join of a link copies the operator `=` and nests no query. -/
theorem Link.meets_toJoin (kind : JoinKind) (link : Link) : (link.toJoin kind).Meets P N :=
  ⟨trivial, hop, trivial⟩

/-- Expansion copies no text but the operator `=` and nests no query. -/
theorem Expander.meets_expand {s : Store Q} (h : s.Meets P N) (x : Expander) :
    (x.expand s).store.Meets P N :=
  Store.Forall.expand (X := fun _ clause => clause.Meets P N) (Link.meets_toJoin hop) h x

theorem Store.Meets.expand {s : Store Q} (h : s.Meets P N) (c : Compiler) :
    (c.expand s).store.Meets P N := by
  unfold Compiler.expand
  split
  · exact Expander.meets_expand hop h c.expander
  · exact h

end Meets

end SqlSelect
