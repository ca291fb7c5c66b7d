import SqlSelect.Query.Clause
import SqlSelect.Proofs.References
import Mathlib.Data.List.Nodup
import Mathlib.Order.BooleanAlgebra.Set

/-!
# Set operations read from left to right

A query with set operations is a tree: its table is combined in order with its operands, each of
which is evaluated first. Written without parentheses, the tree becomes one sequence of tables that
is evaluated from left to right.

The two agree when each operation absorbs those of its operand, `a ∩ (b \ c) = (a ∩ b) \ c` for
instance. For trees without a repeated table the condition is also necessary: a table can be given
rows that leave the others as they are, so a pair of operations that do not absorb one another
shows.
-/

namespace SqlSelect

variable {α : Type}

namespace SetOperation

def apply (operation : SetOperation) (a b : Set α) : Set α :=
  match operation with
  | .union => a ∪ b
  | .intersect => a ∩ b
  | .except => a \ b

/-- Whether the second operation may be done after the first one instead of in its operand. -/
def absorbs : SetOperation → SetOperation → Bool
  | .union, .union | .intersect, .intersect | .intersect, .except => true
  | _, _ => false

theorem apply_apply {first second : SetOperation} (h : first.absorbs second = true)
    (a b c : Set α) : second.apply (first.apply a b) c = first.apply a (second.apply b c) := by
  cases first <;> cases second <;> cases h
  · exact Set.union_assoc a b c
  · exact Set.inter_assoc a b c
  · exact Set.inter_sdiff_assoc a b c

theorem absorbs_iff [Nonempty α] (first second : SetOperation) :
    first.absorbs second = true ↔
      ∀ a b c : Set α, second.apply (first.apply a b) c = first.apply a (second.apply b c) := by
  refine ⟨fun h => apply_apply h, fun h => ?_⟩
  -- the empty set and the set of all rows tell every other pair apart
  have hempty := h Set.univ ∅ ∅
  have hall := h Set.univ Set.univ Set.univ
  have hlast := h ∅ ∅ Set.univ
  have hne : (∅ : Set α) ≠ Set.univ := Set.empty_ne_univ
  cases first <;> cases second <;> simp_all [apply, absorbs]

/-- The operand that changes nothing. -/
def neutral : SetOperation → Set α
  | .union | .except => ∅
  | .intersect => Set.univ

@[simp] theorem apply_neutral (operation : SetOperation) (a : Set α) :
    operation.apply a operation.neutral = a := by
  cases operation <;> simp [apply, neutral]

end SetOperation

/-- Queries over one table each, combined by set operations. -/
inductive Compound where
  | table (name : Sql.Reference)
  | combine (left : Compound) (operation : SetOperation) (operand : Compound)
  deriving DecidableEq

namespace Compound

/-- The rows, given those of each table by its path. -/
def rows (tables : List (List Char) → Set α) : Compound → Set α
  | table name => tables name.path
  | combine left operation operand => operation.apply (left.rows tables) (operand.rows tables)

/-- The first table in writing order. -/
def first : Compound → Sql.Reference
  | table name => name
  | combine left _ _ => left.first

/-- The other tables in writing order, each with the operation before it. -/
def rest : Compound → List (SetOperation × Sql.Reference)
  | table _ => []
  | combine left operation operand =>
    left.rest ++ (operation, operand.first) :: operand.rest

/-- The operations of the query itself, not those of its operands. -/
def operations : Compound → List SetOperation
  | table _ => []
  | combine left operation _ => left.operations ++ [operation]

/-- Every operation absorbs those of its operand. -/
def Absorbing : Compound → Prop
  | table _ => True
  | combine left operation operand =>
    left.Absorbing ∧ (∀ o ∈ operand.operations, operation.absorbs o = true) ∧ operand.Absorbing

/-- The paths of the tables in writing order. -/
def paths : Compound → List (List (List Char))
  | table name => [name.path]
  | combine left _ operand => left.paths ++ operand.paths

end Compound

/-- A table combined with others from left to right. -/
structure Sequence where
  first : Sql.Reference
  rest : List (SetOperation × Sql.Reference)
  deriving DecidableEq

/-- All operations have the same precedence. -/
def Sequence.rows (s : Sequence) (tables : List (List Char) → Set α) : Set α :=
  s.rest.foldl (fun rows (operation, name) => operation.apply rows (tables name.path))
    (tables s.first.path)

namespace Compound

/-- The tree without its parentheses. -/
def sequence (t : Compound) : Sequence :=
  ⟨t.first, t.rest⟩

/-- Evaluates the sequence of a tree from left to right after something has been done to its first
table. -/
def scan (tables : List (List Char) → Set α) : Compound → (Set α → Set α) → Set α
  | table name, g => g (tables name.path)
  | combine left operation operand, g =>
    operand.scan tables (operation.apply (left.scan tables g))

theorem scan_eq_foldl (tables : List (List Char) → Set α) (t : Compound) (g : Set α → Set α) :
    t.scan tables g =
      t.rest.foldl (fun rows (operation, name) => operation.apply rows (tables name.path))
        (g (tables t.first.path)) := by
  induction t generalizing g with
  | table name => rfl
  | combine left operation operand ihl iho => simp [scan, rest, first, ihl, iho]

theorem rows_sequence (tables : List (List Char) → Set α) (t : Compound) :
    t.sequence.rows tables = t.scan tables id :=
  (scan_eq_foldl tables t id).symm

/-! ## Absorption suffices -/

theorem Absorbing.scan_eq {tables : List (List Char) → Set α} {t : Compound}
    (h : t.Absorbing) {g : Set α → Set α}
    (hg : ∀ o ∈ t.operations, ∀ a b, o.apply (g a) b = g (o.apply a b)) :
    t.scan tables g = g (t.rows tables) := by
  induction t generalizing g with
  | table name => rfl
  | combine left operation operand ihl iho =>
    obtain ⟨hleft, habsorbs, hoperand⟩ := h
    have hl := ihl hleft fun o ho => hg o (by simp [operations, ho])
    have ho := iho hoperand (g := operation.apply (g (left.rows tables))) fun o ho =>
      SetOperation.apply_apply (habsorbs o ho) _
    rw [scan, hl, ho, rows]
    exact hg operation (by simp [operations]) _ _

theorem Absorbing.rows_eq {t : Compound} (h : t.Absorbing) (tables : List (List Char) → Set α) :
    t.sequence.rows tables = t.rows tables := by
  rw [rows_sequence]
  exact h.scan_eq fun _ _ _ _ => rfl

/-! ## Absorption is necessary -/

section Necessary

variable {tables tables' : List (List Char) → Set α}

/-- Only the rows of the tables in a tree matter. -/
theorem rows_congr {t : Compound} (h : ∀ p ∈ t.paths, tables p = tables' p) :
    t.rows tables = t.rows tables' ∧ ∀ g, t.scan tables g = t.scan tables' g := by
  induction t with
  | table name =>
    have hname := h name.path (by simp [paths])
    simp [rows, scan, hname]
  | combine left operation operand ihl iho =>
    have hl := ihl fun p hp => h p (by simp [paths, hp])
    have ho := iho fun p hp => h p (by simp [paths, hp])
    simp [rows, scan, hl, ho]

/-- The rows of one choice for the tables of a tree and of another for all others. -/
def merge (t : Compound) (tables tables' : List (List Char) → Set α) :
    List (List Char) → Set α :=
  fun p => if p ∈ t.paths then tables p else tables' p

theorem rows_merge (t : Compound) (tables tables' : List (List Char) → Set α) :
    t.rows (t.merge tables tables') = t.rows tables ∧
      ∀ g, t.scan (t.merge tables tables') g = t.scan tables g :=
  rows_congr fun _ hp => if_pos hp

theorem rows_merge_of_disjoint {t u : Compound} (h : t.paths.Disjoint u.paths)
    (tables tables' : List (List Char) → Set α) :
    u.rows (t.merge tables tables') = u.rows tables' ∧
      ∀ g, u.scan (t.merge tables tables') g = u.scan tables' g :=
  rows_congr fun _ hp => if_neg fun hp' => h hp' hp

/-- The tree has the rows of its first table, and so has its sequence. -/
def Steady (t : Compound) (rows : Set α) (tables : List (List Char) → Set α) : Prop :=
  t.rows tables = rows ∧ ∀ g, t.scan tables g = g rows

/-- The tables of a tree can be chosen so that only the first one counts. -/
theorem exists_steady {t : Compound} (h : t.paths.Nodup) (rows : Set α) :
    ∃ tables, t.Steady rows tables := by
  induction t generalizing rows with
  | table name => exact ⟨fun _ => rows, rfl, fun _ => rfl⟩
  | combine left operation operand ihl iho =>
    obtain ⟨hleft, hoperand, hdisjoint⟩ := List.nodup_append'.mp h
    obtain ⟨tables, hl⟩ := ihl hleft rows
    obtain ⟨tables', ho⟩ := iho hoperand operation.neutral
    have hm := rows_merge left tables tables'
    have hm' := rows_merge_of_disjoint hdisjoint tables tables'
    refine ⟨left.merge tables tables', ?_, fun g => ?_⟩
    · simp [Compound.rows, hm.1, hm'.1, hl.1, ho.1]
    · simp [scan, hm.2, hm'.2, hl.2, ho.2]

/-- Doing something to the rows of a tree is doing it to its first table. -/
def Passes (t : Compound) (g : Set α → Set α) : Prop :=
  ∀ tables, t.scan tables g = g (t.rows tables)

namespace Passes

variable {l r : Compound} {operation : SetOperation}

theorem left (h : (combine l operation r).paths.Nodup) {g : Set α → Set α}
    (hg : (combine l operation r).Passes g) : l.Passes g := by
  obtain ⟨_, hr, hdisjoint⟩ := List.nodup_append'.mp h
  obtain ⟨tables', hsteady⟩ := exists_steady hr (operation.neutral : Set α)
  intro tables
  have hm := rows_merge l tables tables'
  have hm' := rows_merge_of_disjoint hdisjoint tables tables'
  have heq := hg (l.merge tables tables')
  simpa [scan, rows, hm.1, hm.2, hm'.1, hm'.2, hsteady.1, hsteady.2] using heq

theorem operand (h : (combine l operation r).paths.Nodup)
    (hid : (combine l operation r).Passes (id : Set α → Set α)) (a : Set α) :
    r.Passes (operation.apply a) := by
  obtain ⟨hl, _, hdisjoint⟩ := List.nodup_append'.mp h
  obtain ⟨tables, hsteady⟩ := exists_steady hl a
  intro tables'
  have hm := rows_merge l tables tables'
  have hm' := rows_merge_of_disjoint hdisjoint tables tables'
  have heq := hid (l.merge tables tables')
  simpa [scan, rows, hm.1, hm.2, hm'.1, hm'.2, hsteady.1, hsteady.2] using heq

theorem absorbs [Nonempty α] {t : Compound} (h : t.paths.Nodup)
    (hpasses : ∀ a : Set α, t.Passes (operation.apply a)) :
    ∀ o ∈ t.operations, operation.absorbs o = true := by
  induction t with
  | table name => simp [operations]
  | combine l second r ihl _ =>
    obtain ⟨hl, hr, hdisjoint⟩ := List.nodup_append'.mp h
    have hfirst := ihl hl fun a => (hpasses a).left h
    have hsecond : operation.absorbs second = true := by
      rw [SetOperation.absorbs_iff (α := α)]
      intro a b c
      obtain ⟨tables, hb⟩ := exists_steady hl b
      obtain ⟨tables', hc⟩ := exists_steady hr c
      have hm := rows_merge l tables tables'
      have hm' := rows_merge_of_disjoint hdisjoint tables tables'
      have heq := hpasses a (l.merge tables tables')
      simpa [scan, rows, hm.1, hm.2, hm'.1, hm'.2, hb.1, hb.2, hc.1, hc.2] using heq
    intro o ho
    rcases List.mem_append.mp ho with ho | ho
    · exact hfirst o ho
    · rw [List.mem_singleton.mp ho]
      exact hsecond

theorem absorbing [Nonempty α] {t : Compound} (h : t.paths.Nodup)
    (hid : t.Passes (id : Set α → Set α)) : t.Absorbing := by
  induction t with
  | table name => trivial
  | combine l operation r ihl ihr =>
    obtain ⟨hl, hr, _⟩ := List.nodup_append'.mp h
    have hpasses := hid.operand h
    have habsorbs := absorbs hr hpasses
    refine ⟨ihl hl (hid.left h), habsorbs, ?_⟩
    -- the rows before the operand are chosen so that the operation gives the operand alone
    cases operation with
    | union =>
      have hid' : SetOperation.union.apply (∅ : Set α) = id := funext Set.empty_union
      exact ihr hr (hid' ▸ hpasses ∅)
    | intersect =>
      have hid' : SetOperation.intersect.apply (Set.univ : Set α) = id := funext Set.univ_inter
      exact ihr hr (hid' ▸ hpasses Set.univ)
    | except =>
      -- nothing gives the operand alone here, but it has no operations
      cases r with
      | table name => trivial
      | combine left second operand =>
        have hsecond := habsorbs second (by simp [operations])
        cases second <;> cases hsecond

end Passes

theorem absorbing_of_rows_eq [Nonempty α] {t : Compound} (h : t.paths.Nodup)
    (heq : ∀ tables : List (List Char) → Set α, t.sequence.rows tables = t.rows tables) :
    t.Absorbing :=
  Passes.absorbing (α := α) h fun tables => by
    rw [← rows_sequence]
    exact heq tables

end Necessary

end Compound

end SqlSelect
