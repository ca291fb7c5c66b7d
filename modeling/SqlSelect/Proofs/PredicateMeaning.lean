import SqlSelect.Proofs.PredicateReading
import SqlSelect.Proofs.Refinement
import Mathlib.Data.List.SplitBy

/-!
# Written conditions keep their meaning

A list of conditions has a value of its own, found without writing it: groups in which nothing is
left are dropped, runs of terms joined by AND are conjoined and the runs disjoined, and a group has
the value of its list. Under a dialect that quotes names, the text of the conditions reads back as
an expression with the same elementary predicates, in the same order, and the same value whatever
their truth.
-/

namespace SqlSelect

open Sql

variable {Q : Type}

/-! ## The value of a tree of conditions -/

/-- The predicate that stands for itself in the text. A list without values has none. -/
def Predicate.elementary? : Predicate Q → Option Elementary
  | .compare column operator _ => some (.compare (.column (.ofName column)) operator .placeholder)
  | .text column _ _ true => some (.like (.column (.ofName column)))
  | .text column _ _ false => some (.like (.lowered (.ofName column)))
  | .compareColumns first operator second =>
    some (.compare (.column (.ofName first)) operator (.column (.ofName second)))
  | .isNull column => some (.isNull (.column (.ofName column)))
  | .between column _ _ => some (.between (.column (.ofName column)))
  | .oneOf column (v :: values) => some (.oneOf (.column (.ofName column)) (v :: values).length)
  | _ => none

mutual

/-- Comparisons, matches of text, tests for NULL, ranges, lists of values, and groups of these. -/
def Predicate.IsPlain : Predicate Q → Prop
  | .compare _ operator _ | .compareColumns _ operator _ => operator ∈ comparisons
  | .text .. | .isNull _ | .between .. | .oneOf .. => True
  | .group items => Condition.ArePlain items
  | .raw _ | .inQuery .. | .existsQuery _ | .custom .. => False

def Condition.ArePlain : List (Condition Q) → Prop
  | [] => True
  | ⟨_, _, p⟩ :: rest => p.IsPlain ∧ Condition.ArePlain rest

end

mutual

/-- The elementary predicates in order of appearance. -/
def Predicate.elementaries : Predicate Q → List Elementary
  | .group items => Condition.elementaries items
  | p => p.elementary?.toList

def Condition.elementaries : List (Condition Q) → List Elementary
  | [] => []
  | ⟨_, _, p⟩ :: rest => p.elementaries ++ Condition.elementaries rest

end

/-- Terms, each with how it is joined to the one before: the maximal runs joined by AND are
conjoined, and the runs disjoined. Without terms there is no value. -/
def disjoin? (terms : List (Bool × Bool)) : Option Bool :=
  if terms = [] then none
  else some ((terms.splitBy fun _ next => !next.1).any fun run => run.all (·.2))

mutual

/-- The value of a predicate, given the truth of the elementary ones in order of appearance. -/
def Predicate.truth? : Predicate Q → (Nat → Bool) → Option Bool
  | .group items, ρ => disjoin? (Condition.truths items ρ)
  | .oneOf _ [], _ => some false
  | p, ρ => p.elementary?.map fun _ => ρ 0

/-- The values of the conditions that have one, each with how it is joined to the one before. -/
def Condition.truths : List (Condition Q) → (Nat → Bool) → List (Bool × Bool)
  | [], _ => []
  | ⟨byOr, negated, p⟩ :: rest, ρ =>
    ((p.truth? ρ).map fun value => (byOr, value != negated)).toList ++
      Condition.truths rest fun k => ρ (p.elementaries.length + k)

end

/-- The value of a list of conditions. -/
def Condition.value? (items : List (Condition Q)) (ρ : Nat → Bool) : Option Bool :=
  disjoin? (Condition.truths items ρ)

/-! ## The expression of a tree of conditions -/

mutual

/-- The expression as which a predicate is read. -/
def Predicate.expr? (negated : Bool) : Predicate Q → Option Expr
  | .group items =>
    (Filled.ofTerms? (Condition.exprs items)).map fun f => Expr.signed negated f.expr
  | .oneOf _ [] => some (.const negated)
  | p => p.elementary?.map fun a => Expr.signed negated (.atom a)

def Condition.exprs : List (Condition Q) → List (Bool × Expr)
  | [] => []
  | ⟨byOr, negated, p⟩ :: rest =>
    ((p.expr? negated).map fun e => (byOr, e)).toList ++ Condition.exprs rest

end

/-! ## The value of the expression -/

namespace Sql

@[simp] theorem Expr.predicates_signed (negated : Bool) (e : Expr) :
    (signed negated e).predicates = e.predicates := by
  cases negated <;> rfl

@[simp] theorem Expr.value_signed (negated : Bool) (e : Expr) (ρ : Nat → Bool) :
    (signed negated e).value ρ = (e.value ρ != negated) := by
  cases negated <;> simp [signed, value]

/-- The values of terms, given the truth of their predicates in order of appearance. -/
def Expr.values : List (Bool × Expr) → (Nat → Bool) → List (Bool × Bool)
  | [], _ => []
  | (byOr, e) :: ts, ρ => (byOr, e.value ρ) :: values ts fun k => ρ (e.predicates.length + k)

/-- Joins a value to those of the terms before the last OR and after it. -/
def joinValue : Bool × Bool → Bool × Bool → Bool × Bool
  | (before, run), (true, value) => (before || run, value)
  | (before, run), (false, value) => (before, run && value)

/-- The value of all terms. -/
def totalValue (v : Bool × Bool) : Bool :=
  v.1 || v.2

-- the state of the library's loop holds the runs so far, and the current one, in reverse
theorem any_splitBy_loop (ts : List (Bool × Bool)) (t : Bool × Bool) (run : List (Bool × Bool))
    (runs : List (List (Bool × Bool))) :
    ((List.splitBy.loop (fun _ next => !next.1) ts t run runs).any fun run => run.all (·.2)) =
      totalValue
        (ts.foldl joinValue (runs.any fun run => run.all (·.2), (t :: run).all (·.2))) := by
  induction ts generalizing t run runs with
  | nil => simp [List.splitBy.loop, totalValue, Bool.or_comm, Bool.and_comm]
  | cons next ts ih =>
    obtain ⟨byOr, value⟩ := next
    cases byOr with
    | false => simp [List.splitBy.loop, ih, joinValue, Bool.and_comm]
    | true => simp [List.splitBy.loop, ih, joinValue, Bool.or_comm, Bool.and_comm]

theorem disjoin_cons (byOr value : Bool) (ts : List (Bool × Bool)) :
    disjoin? ((byOr, value) :: ts) = some (totalValue (ts.foldl joinValue (false, value))) := by
  rw [disjoin?, if_neg (List.cons_ne_nil _ _), List.splitBy, any_splitBy_loop]
  simp

namespace Filled

/-- The values of the terms before the last OR and after it. -/
def values (f : Filled) (ρ : Nat → Bool) : Bool × Bool :=
  (f.disjunction?.elim false (·.value ρ),
    f.conjunction.value fun k => ρ ((f.disjunction?.elim [] Expr.predicates).length + k))

theorem value_expr (f : Filled) (ρ : Nat → Bool) :
    f.expr.value ρ = totalValue (f.values ρ) := by
  obtain ⟨d?, c⟩ := f
  cases d? <;> simp [expr, values, totalValue, Expr.value]

theorem predicates_extend (f : Filled) (t : Bool × Expr) :
    (f.extend t).expr.predicates = f.expr.predicates ++ t.2.predicates := by
  obtain ⟨d?, c⟩ := f
  obtain ⟨byOr, e⟩ := t
  cases byOr <;> cases d? <;> simp [expr, extend, Expr.predicates]

theorem values_extend (f : Filled) (byOr : Bool) (e : Expr) (ρ : Nat → Bool) :
    (f.extend (byOr, e)).values ρ =
      joinValue (f.values ρ) (byOr, e.value fun k => ρ (f.expr.predicates.length + k)) := by
  cases byOr with
  | true => simp [extend, values, joinValue, value_expr, totalValue]
  | false =>
    obtain ⟨d?, c⟩ := f
    cases d? <;> simp [expr, extend, values, joinValue, Expr.value, Expr.predicates, Nat.add_assoc]

theorem predicates_foldl_extend (f : Filled) (ts : List (Bool × Expr)) :
    (ts.foldl extend f).expr.predicates = f.expr.predicates ++ ts.flatMap (·.2.predicates) := by
  induction ts generalizing f with
  | nil => simp
  | cons t ts ih => simp [ih, predicates_extend]

theorem values_foldl_extend (f : Filled) (ts : List (Bool × Expr)) (ρ : Nat → Bool) :
    (ts.foldl extend f).values ρ =
      (Expr.values ts fun k => ρ (f.expr.predicates.length + k)).foldl joinValue (f.values ρ) := by
  induction ts generalizing f with
  | nil => rfl
  | cons t ts ih =>
    obtain ⟨byOr, e⟩ := t
    simp [ih, Expr.values, values_extend, predicates_extend, Nat.add_assoc]

theorem predicates_ofTerms (ts : List (Bool × Expr)) :
    ((ofTerms? ts).elim [] fun f => f.expr.predicates) = ts.flatMap (·.2.predicates) := by
  cases ts with
  | nil => rfl
  | cons t ts => exact predicates_foldl_extend ⟨none, t.2⟩ ts

theorem value_ofTerms (ts : List (Bool × Expr)) (ρ : Nat → Bool) :
    (ofTerms? ts).map (fun f => f.expr.value ρ) = disjoin? (Expr.values ts ρ) := by
  cases ts with
  | nil => rfl
  | cons t ts =>
    have hvalues := values_foldl_extend ⟨none, t.2⟩ ts ρ
    simp only [ofTerms?, Option.map_some, value_expr, hvalues, Expr.values, disjoin_cons]
    simp [values, expr]

end Filled

end Sql

mutual

theorem Predicate.predicates_expr (negated : Bool) : ∀ p : Predicate Q,
    ((p.expr? negated).elim [] Expr.predicates) = p.elementaries
  | .group items => by
    have hitems := Filled.predicates_ofTerms (Condition.exprs items)
    rw [Condition.predicates_exprs items] at hitems
    rw [Predicate.elementaries, ← hitems, Predicate.expr?]
    cases Filled.ofTerms? (Condition.exprs items) <;> simp
  | .oneOf _ [] => rfl
  | .text _ _ _ true | .text _ _ _ false | .oneOf _ (_ :: _) | .compare .. | .compareColumns ..
  | .isNull _ | .between .. | .raw _ | .inQuery .. | .existsQuery _ | .custom .. => by
    simp [Predicate.expr?, Predicate.elementaries, Predicate.elementary?, Expr.predicates]

theorem Condition.predicates_exprs : ∀ items : List (Condition Q),
    (Condition.exprs items).flatMap (·.2.predicates) = Condition.elementaries items
  | [] => rfl
  | ⟨byOr, negated, p⟩ :: rest => by
    rw [Condition.exprs, Condition.elementaries, List.flatMap_append,
      Condition.predicates_exprs rest, ← Predicate.predicates_expr negated p]
    cases p.expr? negated <;> simp

end

mutual

theorem Predicate.value_expr (negated : Bool) : ∀ (p : Predicate Q) (ρ : Nat → Bool),
    (p.expr? negated).map (·.value ρ) = (p.truth? ρ).map (· != negated)
  | .group items, ρ => by
    rw [Predicate.truth?, ← Condition.values_exprs items ρ, ← Filled.value_ofTerms,
      Predicate.expr?, Option.map_map, Option.map_map]
    simp [Function.comp_def]
  | .oneOf _ [], ρ => by
    simp [Predicate.expr?, Predicate.truth?, Expr.value]
  | .text _ _ _ true, ρ | .text _ _ _ false, ρ | .oneOf _ (_ :: _), ρ | .compare .., ρ
  | .compareColumns .., ρ | .isNull _, ρ | .between .., ρ | .raw _, ρ | .inQuery .., ρ
  | .existsQuery _, ρ | .custom .., ρ => by
    simp [Predicate.expr?, Predicate.truth?, Predicate.elementary?, Expr.value]

theorem Condition.values_exprs : ∀ (items : List (Condition Q)) (ρ : Nat → Bool),
    Expr.values (Condition.exprs items) ρ = Condition.truths items ρ
  | [], _ => rfl
  | ⟨byOr, negated, p⟩ :: rest, ρ => by
    have hvalue := Predicate.value_expr negated p ρ
    have hrest := Condition.values_exprs rest fun k => ρ (p.elementaries.length + k)
    rw [Condition.exprs, Condition.truths, ← hrest, ← Predicate.predicates_expr negated p]
    cases he : p.expr? negated <;> cases ht : p.truth? ρ <;> simp_all [Expr.values]

end

/-! ## Written conditions -/

/-- The text reads as the expression; without one it is empty. -/
def Sql.RendersOption (quote : Char) (text : String) : Option Expr → Prop
  | some e => Renders quote text e
  | none => text = ""

section Written

variable {c : Compiler} {quote : Char} (hd : c.dialect.quote? = some quote)
  (hq : Placeholder.isQuote quote = true) (hr : c.registry = .standard) {f : Q → SubSelect}

include hr in
theorem returns_of_form {p : Predicate Q} {form : PredicateForm} (hp : p.form? = some form)
    {byOr negated : Bool} {P : String → Prop}
    (h : Returns (c.writePredicate form negated (p.map f)) P) :
    Returns (c.writeCondition ⟨byOr, negated, p.map f⟩) P := by
  rw [Compiler.writeCondition_map hr hp]
  exact h

include hd hq in
theorem renders_name (name : String) :
    RendersOperand quote (c.dialect.wrap name) (.column (.ofName name)) := by
  rw [Dialect.wrap, hd]
  exact rendersOperand_wrap hq name

-- only the first theorem of the block uses all of them
set_option linter.unusedSectionVars false

include hd hq hr

mutual

theorem returns_condition (byOr negated : Bool) : ∀ p : Predicate Q, p.IsPlain →
    Returns (c.writeCondition ⟨byOr, negated, p.map f⟩) fun text =>
      RendersOption quote text (p.expr? negated)
  | .compare column operator value, h => by
    refine returns_of_form hr rfl ?_
    refine Returns.map (Returns.bindValue (Renders.negate ?_ negated))
    exact (renders_name hd hq column).compare rendersOperand_mark h (by simp)
  | .text column kind value true, _ => by
    refine returns_of_form hr rfl ?_
    refine Returns.map (Returns.bindValue (Renders.negate ?_ negated))
    exact (renders_name hd hq column).like
  | .text column kind value false, _ => by
    refine returns_of_form hr rfl ?_
    refine Returns.map (Returns.bindValue (Renders.negate ?_ negated))
    rw [Dialect.lower, Dialect.wrap, hd]
    exact (rendersOperand_lower hq column).like
  | .compareColumns first operator second, h => by
    refine returns_of_form hr rfl ?_
    refine Returns.pure (Renders.negate ?_ negated)
    exact (renders_name hd hq first).compare (renders_name hd hq second) h (by simp)
  | .isNull column, _ => by
    refine returns_of_form hr rfl ?_
    exact Returns.pure ((renders_name hd hq column).isNull negated)
  | .between column lower upper, _ => by
    refine returns_of_form hr rfl ?_
    refine Returns.bind (P := (· = "?")) (Returns.bindValue rfl) fun low hlow => ?_
    refine Returns.map (Returns.bindValue ?_)
    rw [hlow]
    exact (renders_name hd hq column).between negated
  | .oneOf column [], _ => by
    refine returns_of_form hr rfl ?_
    exact Returns.pure (renders_const negated)
  | .oneOf column (v :: values), _ => by
    refine returns_of_form hr rfl ?_
    refine Returns.map ((Returns.marks (v :: values)).mono fun marks hmarks => ?_)
    rw [hmarks]
    exact (renders_name hd hq column).oneOf values.length negated
  | .group items, h => by
    refine returns_of_form hr rfl ?_
    refine Returns.map ((returns_terms items h).mono fun ts hts => ?_)
    rw [Predicate.expr?]
    rcases renders_join hts with ⟨hempty, hnone⟩ | ⟨g, hsome, hjoin⟩
    · rw [hempty, hnone]
      rfl
    · rw [if_neg (by simpa [String.isEmpty_iff] using hjoin.ne_empty), hsome]
      exact hjoin.group negated

theorem returns_terms : ∀ items : List (Condition Q), Condition.ArePlain items →
    Returns (c.writeTerms (Condition.mapList f items)) fun ts =>
      List.Forall₂ (RendersTerm quote) ts (Condition.exprs items)
  | [], _ => Returns.pure List.Forall₂.nil
  | ⟨byOr, negated, p⟩ :: items, h => by
    rw [Condition.mapList, Compiler.writeTerms]
    refine Returns.bind (returns_condition byOr negated p h.1) fun text htext => ?_
    refine Returns.map ((returns_terms items h.2).mono fun ts hts => ?_)
    rw [Condition.exprs]
    cases he : p.expr? negated with
    | none =>
      rw [he] at htext
      rw [if_pos (by rw [htext]; rfl)]
      exact hts
    | some e =>
      rw [he] at htext
      rw [if_neg (by simpa [String.isEmpty_iff] using htext.ne_empty)]
      exact List.Forall₂.cons ⟨rfl, htext⟩ hts

end

theorem returns_conditions {items : List (Condition Q)} (h : Condition.ArePlain items) :
    Returns (c.writeConditions (items.map (Condition.map f))) fun text =>
      read? quote text = some ((Filled.ofTerms? (Condition.exprs items)).map Filled.expr) := by
  have hterms := returns_terms hd hq hr (f := f) items h
  rw [Condition.mapList_eq_map] at hterms
  refine Returns.map (hterms.mono fun ts hts => ?_)
  rcases renders_join hts with ⟨hempty, hnone⟩ | ⟨g, hsome, hjoin⟩
  · rw [hempty, hnone]
    exact read_empty
  · rw [hsome]
    exact hjoin.read

end Written

/-- Under a dialect that quotes names, plain conditions are written, and their text reads back as
an expression with the elementary predicates of the tree in their order and, whatever the truth of
each occurrence, with the value of the tree. Conditions in which nothing is left read back as no
expression. -/
theorem conditions_read_back {c : Compiler} (hr : c.registry = .standard) {quote : Char}
    (hd : c.dialect.quote? = some quote) (hq : quote = '\x22' ∨ quote = '\x60')
    {items : List (Condition Query)} (h : Condition.ArePlain items) :
    ∃ text e?, (∀ ctx, ∃ ctx', c.conditions items ctx = .ok text ctx') ∧
      read? quote text = some e? ∧
      e?.elim [] Expr.predicates = Condition.elementaries items ∧
      ∀ ρ, e?.map (·.value ρ) = Condition.value? items ρ := by
  have hquote : Placeholder.isQuote quote = true := by
    rcases hq with rfl | rfl <;> decide
  obtain ⟨text, hrun, hread⟩ := (returns_conditions hd hquote hr (f := c.prepare) h).result
  refine ⟨text, _, hrun, hread, ?_, fun ρ => ?_⟩
  · rw [← Condition.predicates_exprs, ← Filled.predicates_ofTerms]
    cases Filled.ofTerms? (Condition.exprs items) <;> rfl
  · rw [Condition.value?, ← Condition.values_exprs, ← Filled.value_ofTerms, Option.map_map]
    rfl

/-- A group in which nothing is left comes first, a name holds a quote and a connective, and a list
without values stands in a negated group. -/
def Condition.sampleTree : List (Condition Query) :=
  [⟨false, true, .group [⟨true, false, .group []⟩]⟩,
    ⟨true, true, .between "a.b\x60 AND c" .null .null⟩,
    ⟨false, true, .group [⟨true, false, .compareColumns "x" "<>" "t.y as z"⟩,
      ⟨true, true, .oneOf "w" []⟩]⟩,
    ⟨true, true, .text "*" .contains "v" false⟩]

theorem conditions_read_back_sample :
    Condition.ArePlain Condition.sampleTree ∧
      ∃ text e?,
        (∀ ctx, ∃ ctx', Compiler.conditions { dialect := .mysql } Condition.sampleTree ctx =
          .ok text ctx') ∧
        read? '\x60' text = some e? ∧
        e?.elim [] Expr.predicates = Condition.elementaries Condition.sampleTree ∧
        ∀ ρ, e?.map (·.value ρ) = Condition.value? Condition.sampleTree ρ := by
  have hplain : Condition.ArePlain Condition.sampleTree := by
    simp [Condition.sampleTree, Condition.ArePlain, Predicate.IsPlain, comparisons]
  exact ⟨hplain, conditions_read_back rfl rfl (Or.inr rfl) hplain⟩

end SqlSelect
