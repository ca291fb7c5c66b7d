import SqlSelect.Proofs.Posting

/-!
# Where faults come from

A clause that stands under its own component brings a fault into a ledger in three ways only: by a
fragment whose marks and values differ in number, by a custom predicate, or by a nested query. The
statements below read the faults of a ledger off the clauses for any condition on errors, so they
serve to rule out all errors as well as some of them.
-/

namespace SqlSelect

variable {Q R : Type} {E : CompileError → Prop}

open Ledger

/-! ## The tags of custom predicates -/

mutual

/-- The tags of the custom predicates, in groups too, but not in nested queries. -/
def Predicate.customTags : Predicate Q → List String
  | .custom tag _ _ => [tag]
  | .group items => Condition.customTagsAll items
  | .compare .. | .text .. | .compareColumns .. | .raw .. | .isNull .. | .between .. | .oneOf ..
  | .inQuery .. | .existsQuery .. => []

def Condition.customTags : Condition Q → List String
  | ⟨_, _, p⟩ => p.customTags

def Condition.customTagsAll : List (Condition Q) → List String
  | [] => []
  | c :: cs => c.customTags ++ Condition.customTagsAll cs

end

def Clause.customTags : Clause Q → List String
  | .join j => Condition.customTagsAll j.on
  | .where c | .having c => c.customTags
  | .from _ | .deepJoin _ | .group _ | .select _ | .order _ | .limit _ | .union _ | .aggregate _
  | .lock _ => []

section Map

variable (f : Q → R)

mutual

theorem Predicate.customTags_map : ∀ p : Predicate Q, (p.map f).customTags = p.customTags
  | .group items => by
    simp only [Predicate.map, Predicate.customTags]
    exact Condition.customTagsAll_mapList items
  | .custom .. | .compare .. | .text .. | .compareColumns .. | .raw .. | .isNull ..
  | .between .. | .oneOf .. | .inQuery .. | .existsQuery .. => by
    simp only [Predicate.map, Predicate.customTags]

theorem Condition.customTags_map : ∀ c : Condition Q, (c.map f).customTags = c.customTags
  | ⟨_, _, p⟩ => by
    simp only [Condition.map, Condition.customTags]
    exact Predicate.customTags_map p

theorem Condition.customTagsAll_mapList : ∀ cs : List (Condition Q),
    Condition.customTagsAll (Condition.mapList f cs) = Condition.customTagsAll cs
  | [] => rfl
  | c :: cs => by
    rw [Condition.mapList, Condition.customTagsAll, Condition.customTagsAll,
      Condition.customTags_map c, Condition.customTagsAll_mapList cs]

end

theorem Clause.customTags_map (c : Clause Q) : (c.map f).customTags = c.customTags := by
  cases c with
  | join j =>
    simp only [Clause.map, Join.map, Clause.customTags, ← Condition.mapList_eq_map]
    exact Condition.customTagsAll_mapList f j.on
  | «where» c => exact Condition.customTags_map f c
  | having c => exact Condition.customTags_map f c
  | _ => rfl

end Map

/-! ## The faults of a clause -/

/-- Every fault of a fragment satisfies the condition. -/
def Policy.within (E : CompileError → Prop) : Policy where
  fragment f := f.ledger.Within E
  operator _ := True
  seed _ := True

theorem Fragment.within_ledger (f : Fragment) :
    f.ledger.Within E ↔ (Placeholder.count f.sql = f.bindings.length ∨
      E (.placeholderMismatch f.bindings.length (Placeholder.count f.sql))) := by
  rw [Fragment.ledger]
  by_cases h : Placeholder.count f.sql = f.bindings.length
  · simp only [h, if_true, true_or, iff_true]
    exact within_map_ok f.bindings
  · simp only [h, if_false, false_or]
    exact within_fault _

mutual

theorem Predicate.within_ledger : ∀ p : Predicate Ledger,
    p.ledger.Within E ↔
      p.Meets (.within E) (Within E) ∧ ∀ tag ∈ p.customTags, E (customFault tag)
  | .group items => by
    simp only [Predicate.ledger, Predicate.Meets, Predicate.customTags]
    exact Condition.within_ledgerAll items
  | .custom tag _ _ => by
    simp only [Predicate.ledger, Predicate.Meets, Predicate.customTags, List.forall_mem_singleton,
      true_and]
    exact within_fault _
  | .raw fragment => by
    simp [Predicate.ledger, Predicate.Meets, Predicate.customTags, Policy.within]
  | .inQuery _ l | .existsQuery l => by
    simp [Predicate.ledger, Predicate.Meets, Predicate.customTags]
  | .compare _ _ value => by
    simpa [Predicate.ledger, Predicate.Meets, Predicate.customTags, Policy.within] using
      within_map_ok [value]
  | .text _ kind value true => by
    simpa [Predicate.ledger, Predicate.Meets, Predicate.customTags] using
      within_map_ok [.text (kind.pattern value)]
  | .text _ kind value false => by
    simpa [Predicate.ledger, Predicate.Meets, Predicate.customTags] using
      within_map_ok [.text (Text.lowercase (kind.pattern value))]
  | .between _ lower upper => by
    simpa [Predicate.ledger, Predicate.Meets, Predicate.customTags] using
      within_map_ok [lower, upper]
  | .oneOf _ values => by
    simpa [Predicate.ledger, Predicate.Meets, Predicate.customTags] using within_map_ok values
  | .compareColumns .. | .isNull _ => by
    simpa [Predicate.ledger, Predicate.Meets, Predicate.customTags, Policy.within] using
      within_nil

theorem Condition.within_ledger : ∀ c : Condition Ledger,
    c.ledger.Within E ↔
      c.Meets (.within E) (Within E) ∧ ∀ tag ∈ c.customTags, E (customFault tag)
  | ⟨_, _, p⟩ => by
    simp only [Condition.ledger, Condition.Meets, Condition.customTags]
    exact Predicate.within_ledger p

theorem Condition.within_ledgerAll : ∀ cs : List (Condition Ledger),
    (Condition.ledgerAll cs).Within E ↔
      Condition.MeetsAll (.within E) (Within E) cs ∧
        ∀ tag ∈ Condition.customTagsAll cs, E (customFault tag)
  | [] => by
    simpa [Condition.ledgerAll, Condition.MeetsAll, Condition.customTagsAll] using within_nil
  | c :: cs => by
    simp only [Condition.ledgerAll, Condition.MeetsAll, Condition.customTagsAll, within_append,
      List.forall_mem_append]
    rw [Condition.within_ledger c, Condition.within_ledgerAll cs, and_and_and_comm]

end

theorem Order.within_ledger (o : Order) : o.ledger.Within E ↔ o.Meets (.within E) := by
  cases o with
  | raw fragment => exact Iff.rfl
  | column _ _ => exact iff_of_true within_nil trivial
  | random seed? => exact iff_of_true within_nil fun _ _ => trivial

theorem Source.within_ledger (s : Source Ledger) :
    s.ledger.Within E ↔ s.Meets (.within E) (Within E) := by
  cases s with
  | table _ _ => exact iff_of_true within_nil trivial
  | raw fragment => exact Iff.rfl
  | query l alias? => exact Iff.rfl

theorem Column.within_ledger (c : Column Ledger) :
    c.ledger.Within E ↔ c.Meets (.within E) (Within E) := by
  cases c with
  | name _ => exact iff_of_true within_nil trivial
  | raw fragment => exact Iff.rfl
  | query l label => exact Iff.rfl

theorem Combine.within_ledger (c : Combine Ledger) :
    c.ledger.Within E ↔ c.Meets (.within E) (Within E) := by
  cases c <;> exact Iff.rfl

theorem Join.within_ledger (j : Join Ledger) :
    j.ledger.Within E ↔ j.Meets (.within E) (Within E) ∧
      ∀ tag ∈ Condition.customTagsAll j.on, E (customFault tag) := by
  rw [Join.ledger, within_append, ← Condition.ledgerAll_eq_flatMap, Source.within_ledger,
    Condition.within_ledgerAll, ← and_assoc]
  exact and_congr_left fun _ => ⟨fun ⟨ht, ho⟩ => ⟨ht, ho⟩, fun h => ⟨h.table, h.on⟩⟩

theorem Limit.within_ledger (l : Limit) : l.ledger.Within E := by
  have hnumber : ∀ n? : Option UInt32, (numberLedger n?).Within E := by
    intro n?
    have hmap : numberLedger n? = (n?.toList.map toValue).map .ok := by
      rw [numberLedger, List.map_map]
      rfl
    rw [hmap]
    exact within_map_ok _
  exact within_append.mpr ⟨hnumber _, hnumber _⟩

theorem Clause.within_ledger (c : Clause Ledger) :
    c.ledger.Within E ↔
      c.Meets (.within E) (Within E) ∧ ∀ tag ∈ c.customTags, E (customFault tag) := by
  have huntagged : ∀ p : Prop, (p ∧ ∀ tag ∈ ([] : List String), E (customFault tag)) ↔ p := by
    simp
  cases c with
  | join j => exact Join.within_ledger j
  | «where» c => exact Condition.within_ledger c
  | having c => exact Condition.within_ledger c
  | «from» s => exact (Source.within_ledger s).trans (huntagged _).symm
  | group c => exact (Column.within_ledger c).trans (huntagged _).symm
  | select c => exact (Column.within_ledger c).trans (huntagged _).symm
  | union c => exact (Combine.within_ledger c).trans (huntagged _).symm
  | order o => exact (Order.within_ledger o).trans (huntagged _).symm
  | limit l => exact (iff_of_true l.within_ledger trivial).trans (huntagged _).symm
  | deepJoin _ => exact (iff_of_true within_nil trivial).trans (huntagged _).symm
  | aggregate _ => exact (iff_of_true within_nil trivial).trans (huntagged _).symm
  | lock _ => exact (iff_of_true within_nil trivial).trans (huntagged _).symm

/-! ## The faults of a component -/

/-- Every clause of the component is of its kind. -/
def Store.Placed (s : Store Q) (component : Component) : Prop :=
  ∀ clause ∈ s.clauses component, clause.kind = component

theorem Store.misplaced_eq_none_iff (s : Store Q) (component : Component) :
    s.misplaced? component = none ↔ s.Placed component := by
  simp [Store.misplaced?, Store.Placed]

theorem Store.placed_map (f : Q → R) (s : Store Q) (component : Component) :
    (s.map f).Placed component ↔ s.Placed component := by
  rw [← Store.misplaced_eq_none_iff, ← Store.misplaced_eq_none_iff, Store.misplaced_map,
    Option.map_eq_none_iff]

theorem Store.Placed.componentLedger_eq {s : Store Ledger} {component : Component}
    (h : s.Placed component) :
    s.componentLedger component = (s.written component).flatMap Clause.ledger := by
  rw [Store.componentLedger, (s.misplaced_eq_none_iff component).mpr h]

theorem Store.mem_clauses_of_mem_written {s : Store Q} {component : Component} {clause : Clause Q}
    (h : clause ∈ s.written component) : clause ∈ s.clauses component := by
  unfold Store.written at h
  split at h
  · exact List.mem_of_mem_take h
  · exact h

theorem Store.written_map (f : Q → R) (s : Store Q) (component : Component) :
    (s.map f).written component = (s.written component).map (Clause.map f) := by
  unfold Store.written
  rw [Store.clauses_map]
  split
  · exact List.map_take.symm
  · rfl

theorem Component.mem_inWritingOrder {component : Component} (h : component ≠ .deepJoin) :
    component ∈ Component.inWritingOrder := by
  cases component with
  | deepJoin => exact absurd rfl h
  | _ => decide

theorem Store.within_ledger (unions : Bool) (s : Store Ledger) :
    (s.ledger unions).Within E ↔
      ∀ component, s.writes unions component = true → (s.componentLedger component).Within E := by
  rw [Store.ledger, within_flatMap]
  constructor
  · intro h component hwrites
    have hne : component ≠ .deepJoin := by
      rintro rfl
      cases hwrites
    have hcomponent := h component (Component.mem_inWritingOrder hne)
    rwa [if_pos hwrites] at hcomponent
  · intro h component _
    split
    · exact h component ‹_›
    · exact within_nil

end SqlSelect
