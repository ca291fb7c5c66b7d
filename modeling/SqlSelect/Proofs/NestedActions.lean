import SqlSelect.Proofs.Refinement

/-!
# Nested queries as actions

A registered function sees the queries that are nested in its condition. The rules of the library do
not look at them: where a nested query stands they run its action. So if no registered function
looks at them either, stores whose nested queries have the same actions are written alike.
-/

namespace SqlSelect

variable {α β Q : Type}

/-- The action of a nested query, with nothing to be seen of the query. -/
def SubSelect.bare (sub : SubSelect) : SubSelect :=
  ⟨Query.empty, sub.write⟩

/-- The registered functions look at no nested query; they can only have it written. -/
def Registry.Blind (r : Registry) : Prop :=
  ∀ tag write, r.find? tag = some (.custom write) →
    ∀ d condition, write d (Condition.map SubSelect.bare condition) = write d condition

section Congruence

variable {f g : Q → SubSelect}

theorem Condition.map_bare_congr {condition : Condition Q}
    (h : condition.Meets .any fun q => (f q).write = (g q).write) :
    (condition.map f).map SubSelect.bare = (condition.map g).map SubSelect.bare := by
  have hbare : (Clause.where condition).Meets .any fun q =>
      (SubSelect.bare ∘ f) q = (SubSelect.bare ∘ g) q :=
    (Clause.meets_any (fun _ => congrArg (SubSelect.mk Query.empty)) (.where condition)).mp h
  rw [Condition.map_map, Condition.map_map]
  exact Condition.map_congr hbare

/-- Nested queries with the same actions cannot be told apart once they are out of sight. -/
theorem Store.map_bare_congr {s : Store Q}
    (h : s.Meets .any fun q => (f q).write = (g q).write) :
    (s.map f).map SubSelect.bare = (s.map g).map SubSelect.bare := by
  rw [Store.map_map, Store.map_map]
  exact Store.map_congr (h.mono fun _ => congrArg (SubSelect.mk Query.empty))

end Congruence

theorem Registry.blind_standard : Registry.standard.Blind := by
  intro tag write hfind
  obtain ⟨form, hform⟩ := Registry.eq_standard_of_find hfind
  cases hform

namespace Compiler

/-! ## Conditions -/

variable {c : Compiler} (hblind : c.registry.Blind)
include hblind

-- one theorem of the block uses the registry and the others call it
set_option linter.unusedSectionVars false

mutual

theorem writePredicate_bare (negated : Bool) : ∀ (p : Predicate SubSelect) (form : PredicateForm),
    p.form? = some form →
      c.writePredicate form negated (p.map SubSelect.bare) = c.writePredicate form negated p
  | .group items, _, rfl => by
    rw [Predicate.map, writePredicate, writePredicate, writeTerms_bare items]
  | .inQuery .., _, rfl | .existsQuery .., _, rfl => by
    rw [Predicate.map, writePredicate, writePredicate, SubSelect.bare]
  | .compare .., _, rfl | .text .., _, rfl | .compareColumns .., _, rfl | .raw .., _, rfl
  | .isNull .., _, rfl | .between .., _, rfl | .oneOf .., _, rfl => by
    rw [Predicate.map]

theorem writeCondition_bare : ∀ condition : Condition SubSelect,
    c.writeCondition (condition.map SubSelect.bare) = c.writeCondition condition
  | ⟨byOr, negated, p⟩ => by
    rw [Condition.map, writeCondition, writeCondition, Predicate.tag_map, Registry.resolve]
    cases hfind : c.registry.find? p.tag with
    | none => rfl
    | some handler =>
      cases handler with
      | custom write => exact hblind p.tag write hfind c.dialect ⟨byOr, negated, p⟩
      | standard form =>
        by_cases hform : p.form? = some form
        · exact writePredicate_bare negated p form hform
        · have hform' : (p.map SubSelect.bare).form? ≠ some form := p.form_map ▸ hform
          change c.writePredicate form negated _ = c.writePredicate form negated p
          rw [writePredicate_of_ne hform, writePredicate_of_ne hform', Predicate.kind_map]

theorem writeTerms_bare : ∀ items : List (Condition SubSelect),
    c.writeTerms (Condition.mapList SubSelect.bare items) = c.writeTerms items
  | [] => rfl
  | ⟨byOr, negated, p⟩ :: items => by
    rw [Condition.mapList, writeTerms, writeTerms, writeCondition_bare ⟨byOr, negated, p⟩,
      writeTerms_bare items, Condition.map]

end

theorem writeConditions_bare (items : List (Condition SubSelect)) :
    c.writeConditions (items.map (Condition.map SubSelect.bare)) = c.writeConditions items := by
  rw [writeConditions, writeConditions, ← Condition.mapList_eq_map, writeTerms_bare hblind]

theorem writeJoin_bare (join : Join SubSelect) :
    c.writeJoin (join.map SubSelect.bare) = c.writeJoin join := by
  have hsource : c.writeSource (join.table.map SubSelect.bare) = c.writeSource join.table := by
    cases join.table <;> rfl
  rw [writeJoin, writeJoin, Join.map, hsource, writeConditions_bare hblind]

/-! ## Components -/

section Components

omit hblind

/-- What is read and then used is read without the sight of nested queries and used so. -/
theorem payloads_bare {p? : Clause SubSelect → Option α} {m : α → α}
    (hp : ∀ clause, p? (Clause.map SubSelect.bare clause) = (p? clause).map m)
    (s : Store SubSelect) (component : Component) (k : List α → CompileM β) :
    payloads (s.map SubSelect.bare) p? component >>= k =
      payloads s p? component >>= fun xs => k (xs.map m) := by
  rw [payloads_map hp, bind_map_left]
  rfl

theorem writeFrom_bare (s : Store SubSelect) :
    c.writeFrom (s.map SubSelect.bare) = c.writeFrom s := by
  simp only [writeFrom, firstPayload?, bind_assoc, pure_bind,
    payloads_bare (Clause.source_map SubSelect.bare), List.head?_map]
  refine bind_congr fun sources => ?_
  rcases sources.head? with _ | (_ | _ | _) <;> rfl

theorem writeColumns_bare (columns : List (Column SubSelect)) :
    c.writeColumns (columns.map (Column.map SubSelect.bare)) = c.writeColumns columns := by
  have heach : c.writeColumn ∘ Column.map SubSelect.bare = c.writeColumn := by
    funext column
    cases column <;> rfl
  rw [writeColumns, writeColumns, List.mapM_map, heach]

theorem writeCombines_bare (s : Store SubSelect) (parenthesize : Bool) :
    writeCombines (s.map SubSelect.bare) parenthesize = writeCombines s parenthesize := by
  have heach : writeCombine parenthesize ∘ Combine.map SubSelect.bare =
      writeCombine parenthesize := by
    funext combine
    cases combine <;> rfl
  simp only [writeCombines, payloads_bare (Clause.combine_map SubSelect.bare), List.mapM_map, heach]

end Components

theorem writeSelect_bare (s : Store SubSelect) (isDistinct : Bool) :
    c.writeSelect (s.map SubSelect.bare) isDistinct = c.writeSelect s isDistinct := by
  have hjoin : c.writeJoin ∘ Join.map SubSelect.bare = c.writeJoin :=
    funext (writeJoin_bare hblind)
  have hfragments : c.fragments (s.map SubSelect.bare) isDistinct = c.fragments s isDistinct := by
    simp only [fragments, writeFrom_bare, writeAggregate, writeProjection, writeJoins, writeWhere,
      writeGroups, writeHavings, writeOrders, writeLimit, writeOffset, writeSetOperations,
      writeCombines_bare, writeLock, firstPayload?, Store.has_map, bind_assoc, pure_bind,
      payloads_bare (Clause.aggregate_map SubSelect.bare),
      payloads_bare (Clause.column_map SubSelect.bare),
      payloads_bare (Clause.join_map SubSelect.bare),
      payloads_bare (Clause.condition_map SubSelect.bare),
      payloads_bare (Clause.order_map SubSelect.bare),
      payloads_bare (Clause.limit_map SubSelect.bare),
      payloads_bare (Clause.lock_map SubSelect.bare), List.mapM_map, List.map_id,
      List.isEmpty_map, writeColumns_bare, hjoin, writeConditions, ← Condition.mapList_eq_map,
      writeTerms_bare hblind]
  rw [writeSelect, writeSelect, hfragments]

theorem writeExpanded_bare (s : Store SubSelect) (isDistinct : Bool) :
    c.writeExpanded (s.map SubSelect.bare) isDistinct = c.writeExpanded s isDistinct := by
  rw [writeExpanded, writeExpanded, expand_map, ← writeSelect_bare hblind (c.expand s).store]
  rfl

end Compiler

end SqlSelect
