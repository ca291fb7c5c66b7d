import SqlSelect.Value.Basic
import SqlSelect.Identifier

/-!
# Sources of rows

Where a FROM or a JOIN takes its rows from. This type, like every other part of a query, is a
function of the type `Q` of nested queries: the same clauses describe a query tree, and what a
traversal has made of the nested trees.
-/

namespace SqlSelect

/-- SQL text that is copied as it is, with the values of its placeholders. -/
structure Fragment where
  sql : String
  bindings : List Value
  deriving BEq

/-- A source of rows. -/
inductive Source (Q : Type) where
  | table (name : String) (alias? : Option String)
  | raw (fragment : Fragment)
  | query (query : Q) (alias? : Option String)

namespace Source

variable {Q R : Type}

def map (f : Q → R) : Source Q → Source R
  | .table name alias? => .table name alias?
  | .raw fragment => .raw fragment
  | .query q alias? => .query (f q) alias?

/-- The name other clauses use for this source: its alias, else the alias inside a table name, else
the table name. A fragment has none, and blanks alone are no name. -/
def name? (source : Source Q) : Option String :=
  let given? := match source with
    | .table _ (some label) | .query _ (some label) => some label
    | .table name none => some ((Identifier.splitAlias name).2.getD name)
    | .query _ none | .raw _ => none
  (given?.map Text.trim).filter (!·.isEmpty)

/-- Equality of sources, given one of nested queries. -/
def beqBy (r : Q → R → Bool) : Source Q → Source R → Bool
  | .table name alias?, .table name' alias?' => name == name' && alias? == alias?'
  | .raw fragment, .raw fragment' => fragment == fragment'
  | .query q alias?, .query q' alias?' => r q q' && alias? == alias?'
  | _, _ => false

end Source

end SqlSelect
