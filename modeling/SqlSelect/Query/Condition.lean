import SqlSelect.Query.Source

/-!
# Conditions

The predicates of WHERE, HAVING and ON. A condition is a predicate with two flags: how it is joined
to the condition before it, and whether it is negated.
-/

namespace SqlSelect

/-- How a text is matched. -/
inductive TextMatch where
  | like
  | startsWith
  | endsWith
  | contains
  deriving DecidableEq

/-- The LIKE pattern for a value. -/
def TextMatch.pattern (value : String) : TextMatch → String
  | .like => value
  | .startsWith => value ++ "%"
  | .endsWith => "%" ++ value
  | .contains => "%" ++ value ++ "%"

mutual

/-- A predicate. -/
inductive Predicate (Q : Type) where
  | compare (column operator : String) (value : Value)
  | text (column : String) (kind : TextMatch) (value : String) (caseSensitive : Bool)
  | compareColumns (first operator second : String)
  | group (items : List (Condition Q))
  | raw (fragment : Fragment)
  | isNull (column : String)
  | between (column : String) (lower upper : Value)
  | oneOf (column : String) (values : List Value)
  | inQuery (column : String) (query : Q)
  | existsQuery (query : Q)
  | custom (tag column : String) (values : List Value)

/-- A predicate with its flags. The first condition of a list ignores `byOr`. -/
structure Condition (Q : Type) where
  byOr : Bool
  negated : Bool
  predicate : Predicate Q

end

/-- The shapes of predicate that the library itself can write. -/
inductive PredicateForm where
  | compare
  | text
  | compareColumns
  | group
  | raw
  | isNull
  | between
  | oneOf
  | inQuery
  | existsQuery
  deriving DecidableEq

namespace PredicateForm

/-- The tag under which a form's handler is registered. -/
def tag : PredicateForm → String
  | .compare => "basic"
  | .text => "text"
  | .compareColumns => "columns"
  | .group => "nested"
  | .raw => "raw"
  | .isNull => "null"
  | .between => "between"
  | .oneOf => "in"
  | .inQuery => "in_query"
  | .existsQuery => "exists"

def all : List PredicateForm :=
  [.compare, .text, .compareColumns, .group, .raw, .isNull, .between, .oneOf, .inQuery,
    .existsQuery]

theorem mem_all (form : PredicateForm) : form ∈ all := by
  cases form <;> decide

def ofTag? (tag : String) : Option PredicateForm :=
  all.find? (·.tag == tag)

end PredicateForm

variable {Q R : Type}

namespace Predicate

/-- The shape of a predicate; a custom predicate has none. -/
def form? : Predicate Q → Option PredicateForm
  | .compare .. => some .compare
  | .text .. => some .text
  | .compareColumns .. => some .compareColumns
  | .group .. => some .group
  | .raw .. => some .raw
  | .isNull .. => some .isNull
  | .between .. => some .between
  | .oneOf .. => some .oneOf
  | .inQuery .. => some .inQuery
  | .existsQuery .. => some .existsQuery
  | .custom .. => none

/-- The name of a predicate's shape. -/
def kind (p : Predicate Q) : String :=
  p.form?.elim "custom" PredicateForm.tag

/-- The tag whose handler writes a predicate. -/
def tag : Predicate Q → String
  | .custom tag _ _ => tag
  | p => p.kind

end Predicate

namespace Condition

/-- A condition joined by AND and not negated. -/
def ofPredicate (p : Predicate Q) : Condition Q :=
  ⟨false, false, p⟩

def compare (column operator : String) (value : Value) : Condition Q :=
  ofPredicate (.compare column operator value)

def compareColumns (first operator second : String) : Condition Q :=
  ofPredicate (.compareColumns first operator second)

/-- The same condition, joined by OR. -/
def or (c : Condition Q) : Condition Q :=
  { c with byOr := true }

end Condition

mutual

def Predicate.map (f : Q → R) : Predicate Q → Predicate R
  | .compare column operator value => .compare column operator value
  | .text column kind value caseSensitive => .text column kind value caseSensitive
  | .compareColumns first operator second => .compareColumns first operator second
  | .group items => .group (Condition.mapList f items)
  | .raw fragment => .raw fragment
  | .isNull column => .isNull column
  | .between column lower upper => .between column lower upper
  | .oneOf column values => .oneOf column values
  | .inQuery column q => .inQuery column (f q)
  | .existsQuery q => .existsQuery (f q)
  | .custom tag column values => .custom tag column values

def Condition.map (f : Q → R) : Condition Q → Condition R
  | ⟨byOr, negated, predicate⟩ => ⟨byOr, negated, predicate.map f⟩

def Condition.mapList (f : Q → R) : List (Condition Q) → List (Condition R)
  | [] => []
  | c :: cs => c.map f :: Condition.mapList f cs

end

theorem Condition.mapList_eq_map (f : Q → R) (cs : List (Condition Q)) :
    Condition.mapList f cs = cs.map (Condition.map f) := by
  induction cs with
  | nil => rfl
  | cons c cs ih => simp [Condition.mapList, ih]

mutual

/-- Equality of predicates, given one of nested queries. -/
def Predicate.beqBy (r : Q → R → Bool) : Predicate Q → Predicate R → Bool
  | .compare column operator value, .compare column' operator' value' =>
    column == column' && operator == operator' && value == value'
  | .text column kind value sensitive, .text column' kind' value' sensitive' =>
    column == column' && kind == kind' && value == value' && sensitive == sensitive'
  | .compareColumns first operator second, .compareColumns first' operator' second' =>
    first == first' && operator == operator' && second == second'
  | .group items, .group items' => Condition.beqListBy r items items'
  | .raw fragment, .raw fragment' => fragment == fragment'
  | .isNull column, .isNull column' => column == column'
  | .between column lower upper, .between column' lower' upper' =>
    column == column' && lower == lower' && upper == upper'
  | .oneOf column values, .oneOf column' values' => column == column' && values == values'
  | .inQuery column q, .inQuery column' q' => column == column' && r q q'
  | .existsQuery q, .existsQuery q' => r q q'
  | .custom tag column values, .custom tag' column' values' =>
    tag == tag' && column == column' && values == values'
  | _, _ => false

/-- Equality of conditions, given one of nested queries. -/
def Condition.beqBy (r : Q → R → Bool) : Condition Q → Condition R → Bool
  | ⟨byOr, negated, predicate⟩, ⟨byOr', negated', predicate'⟩ =>
    byOr == byOr' && negated == negated' && predicate.beqBy r predicate'

def Condition.beqListBy (r : Q → R → Bool) : List (Condition Q) → List (Condition R) → Bool
  | [], [] => true
  | c :: cs, c' :: cs' => c.beqBy r c' && Condition.beqListBy r cs cs'
  | _, _ => false

end

end SqlSelect
