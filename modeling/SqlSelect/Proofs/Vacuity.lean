import SqlSelect.Proofs.Composition

/-!
# Conditions that write nothing

An empty text to copy writes nothing, and neither does a group of conditions that write nothing:
not even its parentheses or its NOT are left. Every other condition that can be written has a text.
So the conditions without text are known by their form, and `Condition.pruneAll` takes them out of a
list at every depth. What is left is written by the same action, although emptiness decides about
connectives, parentheses and negation at each level.
-/

namespace SqlSelect

variable {Q R α β : Type}

mutual

/-- The predicate has no text: a group without text inside, or an empty text to copy. An empty text
that is negated has one. -/
def Predicate.isVacuous (negated : Bool) : Predicate Q → Bool
  | .group items => Condition.allVacuous items
  | .raw fragment => !negated && fragment.sql.isEmpty && fragment.bindings.isEmpty
  | _ => false

def Condition.isVacuous : Condition Q → Bool
  | ⟨_, negated, p⟩ => p.isVacuous negated

def Condition.allVacuous : List (Condition Q) → Bool
  | [] => true
  | c :: cs => c.isVacuous && Condition.allVacuous cs

end

mutual

def Predicate.prune : Predicate Q → Predicate Q
  | .group items => .group (Condition.pruneAll items)
  | p => p

/-- The condition without the vacuous ones inside it. -/
def Condition.prune : Condition Q → Condition Q
  | ⟨byOr, negated, p⟩ => ⟨byOr, negated, p.prune⟩

/-- The conditions without the vacuous ones among them and inside them. -/
def Condition.pruneAll : List (Condition Q) → List (Condition Q)
  | [] => []
  | c :: cs => if c.isVacuous then Condition.pruneAll cs else c.prune :: Condition.pruneAll cs

end

/-- The condition is among the given ones or in a group at some depth among them. -/
inductive Condition.Occurs (c : Condition Q) : List (Condition Q) → Prop
  | here {cs : List (Condition Q)} : c ∈ cs → Occurs c cs
  | inside {byOr negated : Bool} {items cs : List (Condition Q)} :
      ⟨byOr, negated, .group items⟩ ∈ cs → Occurs c items → Occurs c cs

namespace Condition

theorem allVacuous_eq_true_iff (cs : List (Condition Q)) :
    allVacuous cs = true ↔ ∀ c ∈ cs, c.isVacuous = true := by
  induction cs with
  | nil => simp [allVacuous]
  | cons c cs ih => simp [allVacuous, ih]

theorem allVacuous_eq_false_iff (cs : List (Condition Q)) :
    allVacuous cs = false ↔ ∃ c ∈ cs, c.isVacuous = false := by
  rw [← Bool.not_eq_true, allVacuous_eq_true_iff]
  simp

theorem pruneAll_eq (cs : List (Condition Q)) :
    pruneAll cs = (cs.filter (!·.isVacuous)).map prune := by
  induction cs with
  | nil => rfl
  | cons c cs ih => cases h : c.isVacuous <;> simp [pruneAll, h, ih]

end Condition

/-! ## Nested queries do not matter -/

section Map

variable (f : Q → R)

mutual

theorem Predicate.isVacuous_map (negated : Bool) :
    ∀ p : Predicate Q, (p.map f).isVacuous negated = p.isVacuous negated
  | .group items => by
    rw [Predicate.map, Predicate.isVacuous, Predicate.isVacuous, Condition.allVacuous_mapList items]
  | .compare .. | .text .. | .compareColumns .. | .raw .. | .isNull .. | .between .. | .oneOf ..
  | .inQuery .. | .existsQuery .. | .custom .. => rfl

theorem Condition.isVacuous_map : ∀ c : Condition Q, (c.map f).isVacuous = c.isVacuous
  | ⟨_, negated, p⟩ => by
    rw [Condition.map, Condition.isVacuous, Condition.isVacuous, Predicate.isVacuous_map negated p]

theorem Condition.allVacuous_mapList : ∀ cs : List (Condition Q),
    Condition.allVacuous (Condition.mapList f cs) = Condition.allVacuous cs
  | [] => rfl
  | c :: cs => by
    rw [Condition.mapList, Condition.allVacuous, Condition.allVacuous, Condition.isVacuous_map c,
      Condition.allVacuous_mapList cs]

end

mutual

theorem Predicate.prune_map : ∀ p : Predicate Q, (p.map f).prune = p.prune.map f
  | .group items => by
    simp only [Predicate.map, Predicate.prune, Condition.pruneAll_mapList items]
  | .compare .. | .text .. | .compareColumns .. | .raw .. | .isNull .. | .between .. | .oneOf ..
  | .inQuery .. | .existsQuery .. | .custom .. => rfl

theorem Condition.prune_map : ∀ c : Condition Q, (c.map f).prune = c.prune.map f
  | ⟨_, _, p⟩ => by simp only [Condition.map, Condition.prune, Predicate.prune_map p]

theorem Condition.pruneAll_mapList : ∀ cs : List (Condition Q),
    Condition.pruneAll (Condition.mapList f cs) = Condition.mapList f (Condition.pruneAll cs)
  | [] => rfl
  | c :: cs => by
    rw [Condition.mapList, Condition.pruneAll, Condition.pruneAll, Condition.isVacuous_map,
      Condition.prune_map c, Condition.pruneAll_mapList cs]
    split <;> rfl

end

theorem Condition.pruneAll_map (cs : List (Condition Q)) :
    Condition.pruneAll (cs.map (Condition.map f)) =
      (Condition.pruneAll cs).map (Condition.map f) := by
  rw [← Condition.mapList_eq_map, Condition.pruneAll_mapList, Condition.mapList_eq_map]

end Map

/-! ## What is left of a list -/

mutual

/-- A condition that has a text is not emptied by pruning it. -/
theorem Predicate.isVacuous_prune (negated : Bool) :
    ∀ p : Predicate Q, p.prune.isVacuous negated = p.isVacuous negated
  | .group items => by
    rw [Predicate.prune, Predicate.isVacuous, Predicate.isVacuous,
      Condition.allVacuous_pruneAll items]
  | .compare .. | .text .. | .compareColumns .. | .raw .. | .isNull .. | .between .. | .oneOf ..
  | .inQuery .. | .existsQuery .. | .custom .. => rfl

theorem Condition.isVacuous_prune : ∀ c : Condition Q, c.prune.isVacuous = c.isVacuous
  | ⟨_, negated, p⟩ => by
    rw [Condition.prune, Condition.isVacuous, Condition.isVacuous,
      Predicate.isVacuous_prune negated p]

theorem Condition.allVacuous_pruneAll : ∀ cs : List (Condition Q),
    Condition.allVacuous (Condition.pruneAll cs) = Condition.allVacuous cs
  | [] => rfl
  | c :: cs => by
    rw [Condition.pruneAll, Condition.allVacuous]
    cases h : c.isVacuous with
    | true => exact Condition.allVacuous_pruneAll cs
    | false =>
      rw [if_neg Bool.false_ne_true, Condition.allVacuous, Condition.isVacuous_prune c, h,
        Bool.false_and, Bool.false_and]

end

/-- Pruning leaves nothing to prune. -/
theorem Condition.Occurs.isVacuous_eq_false {c : Condition Q} {cs : List (Condition Q)}
    (h : c.Occurs (Condition.pruneAll cs)) : c.isVacuous = false := by
  generalize hpruned : Condition.pruneAll cs = ds at h
  induction h generalizing cs with
  | here hmem =>
    rw [← hpruned, Condition.pruneAll_eq] at hmem
    obtain ⟨d, hd, rfl⟩ := List.mem_map.mp hmem
    rw [Condition.isVacuous_prune]
    simpa using (List.mem_filter.mp hd).2
  | inside hmem _ ih =>
    rw [← hpruned, Condition.pruneAll_eq] at hmem
    obtain ⟨⟨_, _, p⟩, _, hprune⟩ := List.mem_map.mp hmem
    cases p <;> cases hprune
    exact ih rfl

/-! ## Writing vacuous conditions -/

namespace Compiler

variable {c : Compiler} (hr : c.registry = .standard)
include hr

-- in each block one theorem uses the registry and the other calls it
set_option linter.unusedSectionVars false

mutual

theorem writeCondition_of_isVacuous : ∀ condition : Condition SubSelect,
    condition.isVacuous = true → c.writeCondition condition = pure ""
  | ⟨byOr, negated, .group items⟩, h => by
    rw [writeCondition_standard hr rfl, writePredicate, writeTerms_of_allVacuous items h, pure_bind]
    rfl
  | ⟨byOr, negated, .raw ⟨sql, bindings⟩⟩, h => by
    simp only [Condition.isVacuous, Predicate.isVacuous, Bool.and_eq_true, Bool.not_eq_true',
      String.isEmpty_iff, List.isEmpty_iff] at h
    obtain ⟨⟨rfl, rfl⟩, rfl⟩ := h
    rw [writeCondition_standard hr rfl, writePredicate]
    rfl

theorem writeTerms_of_allVacuous : ∀ items : List (Condition SubSelect),
    Condition.allVacuous items = true → c.writeTerms items = pure []
  | [], _ => by rw [writeTerms]
  | item :: items, h => by
    rw [Condition.allVacuous, Bool.and_eq_true] at h
    rw [writeTerms, writeCondition_of_isVacuous item h.1, writeTerms_of_allVacuous items h.2,
      pure_bind, pure_bind]
    rfl

end

mutual

theorem writeCondition_prune : ∀ condition : Condition SubSelect,
    c.writeCondition condition.prune = c.writeCondition condition
  | ⟨byOr, negated, .group items⟩ => by
    rw [Condition.prune, Predicate.prune, writeCondition_standard hr rfl,
      writeCondition_standard hr rfl, writePredicate, writePredicate, writeTerms_pruneAll items]
  | ⟨_, _, .compare ..⟩ | ⟨_, _, .text ..⟩ | ⟨_, _, .compareColumns ..⟩ | ⟨_, _, .raw ..⟩
  | ⟨_, _, .isNull ..⟩ | ⟨_, _, .between ..⟩ | ⟨_, _, .oneOf ..⟩ | ⟨_, _, .inQuery ..⟩
  | ⟨_, _, .existsQuery ..⟩ | ⟨_, _, .custom ..⟩ => rfl

/-- A vacuous condition gives no term, so neither the position of the next one nor its connective
depends on it. -/
theorem writeTerms_pruneAll : ∀ items : List (Condition SubSelect),
    c.writeTerms (Condition.pruneAll items) = c.writeTerms items
  | [] => rfl
  | ⟨byOr, negated, p⟩ :: items => by
    rw [Condition.pruneAll, writeTerms]
    cases h : Condition.isVacuous ⟨byOr, negated, p⟩ with
    | true =>
      rw [writeCondition_of_isVacuous hr _ h, pure_bind]
      exact (writeTerms_pruneAll items).trans (bind_pure _).symm
    | false =>
      rw [if_neg Bool.false_ne_true, writeTerms, writeCondition_prune ⟨byOr, negated, p⟩,
        writeTerms_pruneAll items]
      rfl

end

theorem writeConditions_pruneAll (items : List (Condition SubSelect)) :
    c.writeConditions (Condition.pruneAll items) = c.writeConditions items := by
  rw [writeConditions, writeConditions, writeTerms_pruneAll hr]

end Compiler

/-! ## Writing the others -/

/-- The property holds of whatever the action returns when it succeeds. -/
def Yields (m : CompileM α) (P : α → Prop) : Prop :=
  ∀ ctx a ctx', m ctx = .ok a ctx' → P a

namespace Yields

theorem any (m : CompileM α) : Yields m fun _ => True :=
  fun _ _ _ _ => trivial

theorem pure {a : α} {P : α → Prop} (h : P a) : Yields (Pure.pure a) P := by
  rintro _ _ _ ⟨⟩
  exact h

theorem throw {e : CompileError} {P : α → Prop} :
    Yields (MonadExcept.throw e : CompileM α) P := by
  rintro _ _ _ ⟨⟩

theorem bind {m : CompileM α} {k : α → CompileM β} {P : α → Prop} {P' : β → Prop}
    (hm : Yields m P) (hk : ∀ a, P a → Yields (k a) P') : Yields (m >>= k) P' := by
  intro ctx b ctx' hrun
  obtain ⟨a, mid, ha, hb⟩ := bind_eq_ok hrun
  exact hk a (hm _ _ _ ha) _ _ _ hb

theorem map {m : CompileM α} {g : α → β} {P : α → Prop} {P' : β → Prop} (hm : Yields m P)
    (h : ∀ a, P a → P' (g a)) : Yields (do return g (← m)) P' :=
  bind hm fun a ha => pure (h a ha)

theorem fragment (f : Fragment) : Yields (CompileM.fragment f) fun sql =>
    sql = f.sql ∧ Placeholder.count f.sql = f.bindings.length := by
  unfold CompileM.fragment
  split
  · rename_i hcount
    exact bind (any _) fun _ _ => pure ⟨rfl, hcount⟩
  · exact throw

end Yields

theorem negate_eq_empty_iff (negated : Bool) (sql : String) :
    negate negated sql = "" ↔ negated = false ∧ sql = "" := by
  cases negated <;> simp [negate]

theorem Term.join_eq_empty_iff {ts : List Term} (h : ∀ t ∈ ts, t.sql ≠ "") :
    Term.join ts = "" ↔ ts = [] := by
  cases ts with
  | nil => simp [Term.join]
  | cons t ts => simp [Term.join, h t List.mem_cons_self]

namespace Compiler

variable {c : Compiler} (hr : c.registry = .standard)
include hr

-- in each block one theorem uses the registry and the other calls it
set_option linter.unusedSectionVars false

mutual

/-- A condition that is written to no text is vacuous. -/
theorem yields_condition (byOr negated : Bool) : ∀ p : Predicate SubSelect,
    Yields (c.writeCondition ⟨byOr, negated, p⟩) fun sql => sql = "" → p.isVacuous negated = true
  | .compare column operator value => by
    rw [writeCondition_standard hr rfl, writePredicate]
    exact .map (.any _) fun mark _ hempty => by simp [negate_eq_empty_iff] at hempty
  | .text column kind value caseSensitive => by
    rw [writeCondition_standard hr rfl, writePredicate]
    cases caseSensitive <;>
      exact .map (.any _) fun mark _ hempty => by simp [negate_eq_empty_iff] at hempty
  | .compareColumns first operator second => by
    rw [writeCondition_standard hr rfl, writePredicate]
    exact .pure fun hempty => by simp [negate_eq_empty_iff] at hempty
  | .group items => by
    rw [writeCondition_standard hr rfl, writePredicate]
    refine .map (yields_terms items) fun ts ⟨hterms, hnil⟩ hempty => ?_
    by_cases hinner : (Term.join ts).isEmpty = true
    · exact hnil ((Term.join_eq_empty_iff hterms).mp (String.isEmpty_iff.mp hinner))
    · simp [hinner] at hempty
  | .raw fragment => by
    rw [writeCondition_standard hr rfl, writePredicate]
    refine .map (.fragment fragment) fun sql ⟨hsql, hcount⟩ hempty => ?_
    obtain ⟨rfl, rfl⟩ := (negate_eq_empty_iff negated sql).mp hempty
    -- an empty text has no marks, so it was copied because there are no values either
    rw [← hsql] at hcount
    have hbindings : fragment.bindings = [] := List.length_eq_zero_iff.mp hcount.symm
    simp [Predicate.isVacuous, ← hsql, hbindings]
  | .isNull column => by
    rw [writeCondition_standard hr rfl, writePredicate]
    exact .pure fun hempty => by simp at hempty
  | .between column lower upper => by
    rw [writeCondition_standard hr rfl, writePredicate]
    refine .bind (.any _) fun low _ => ?_
    exact .map (.any _) fun high _ hempty => by simp at hempty
  | .oneOf column values => by
    rw [writeCondition_standard hr rfl, writePredicate]
    split
    · exact .pure fun hempty => by cases negated <;> simp at hempty
    · exact .map (.any _) fun marks _ hempty => by simp at hempty
  | .inQuery column query => by
    rw [writeCondition_standard hr rfl, writePredicate]
    exact .map (.any _) fun sub _ hempty => by simp at hempty
  | .existsQuery query => by
    rw [writeCondition_standard hr rfl, writePredicate]
    exact .map (.any _) fun sub _ hempty => by simp at hempty
  | .custom tag column values => by
    rw [writeCondition_custom hr]
    exact .throw

theorem yields_terms : ∀ items : List (Condition SubSelect),
    Yields (c.writeTerms items) fun ts =>
      (∀ t ∈ ts, t.sql ≠ "") ∧ (ts = [] → Condition.allVacuous items = true)
  | [] => by
    rw [writeTerms]
    exact .pure ⟨by simp, fun _ => rfl⟩
  | ⟨byOr, negated, p⟩ :: items => by
    rw [writeTerms]
    refine .bind (yields_condition byOr negated p) fun sql hsql => ?_
    refine .map (yields_terms items) fun ts ⟨hterms, hnil⟩ => ?_
    by_cases hempty : sql = ""
    · rw [if_pos (String.isEmpty_iff.mpr hempty)]
      refine ⟨hterms, fun hts => ?_⟩
      rw [Condition.allVacuous, Condition.isVacuous, hsql hempty, hnil hts, Bool.and_true]
    · rw [if_neg (mt String.isEmpty_iff.mp hempty)]
      exact ⟨List.forall_mem_cons.mpr ⟨hempty, hterms⟩, fun h => absurd h (List.cons_ne_nil _ _)⟩

end

/-- Among the conditions that can be written, exactly the vacuous ones have no text. -/
theorem yields_condition_iff (condition : Condition SubSelect) :
    Yields (c.writeCondition condition) fun sql => sql = "" ↔ condition.isVacuous = true := by
  obtain ⟨byOr, negated, p⟩ := condition
  intro ctx sql ctx' hrun
  refine ⟨yields_condition hr byOr negated p ctx sql ctx' hrun, fun hvacuous => ?_⟩
  rw [writeCondition_of_isVacuous hr _ hvacuous] at hrun
  cases hrun
  rfl

theorem yields_conditions_iff (items : List (Condition SubSelect)) :
    Yields (c.writeConditions items) fun sql =>
      sql = "" ↔ Condition.allVacuous items = true := by
  have hempty : Yields (c.writeConditions items) fun sql =>
      sql = "" → Condition.allVacuous items = true :=
    .map (yields_terms hr items) fun ts h hjoin => h.2 ((Term.join_eq_empty_iff h.1).mp hjoin)
  intro ctx sql ctx' hrun
  constructor
  · exact hempty ctx sql ctx' hrun
  · intro hvacuous
    rw [writeConditions, writeTerms_of_allVacuous hr items hvacuous, pure_bind] at hrun
    cases hrun
    rfl

end Compiler

end SqlSelect
