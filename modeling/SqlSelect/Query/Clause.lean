import SqlSelect.Query.Component
import SqlSelect.Query.Join

/-!
# Clauses

Everything that can be stored in a query: a clause is one payload under the kind it is made for.
-/

namespace SqlSelect

/-- A projected or grouped column. -/
inductive Column (Q : Type) where
  | name (name : String)
  | raw (fragment : Fragment)
  | query (query : Q) (label : String)

inductive Direction where
  | ascending
  | descending
  deriving DecidableEq

def Direction.keyword : Direction → String
  | .ascending => "ASC"
  | .descending => "DESC"

/-- One term of an ordering. -/
inductive Order where
  | column (column : String) (direction : Direction)
  | raw (fragment : Fragment)
  | random (seed? : Option String)
  deriving BEq

inductive AggregateFunction where
  | count
  | sum
  | avg
  | min
  | max
  deriving DecidableEq

def AggregateFunction.keyword : AggregateFunction → String
  | .count => "COUNT"
  | .sum => "SUM"
  | .avg => "AVG"
  | .min => "MIN"
  | .max => "MAX"

/-- The name of the result column when none is given. -/
def AggregateFunction.defaultAlias : AggregateFunction → String
  | .count => "count"
  | .sum => "sum"
  | .avg => "avg"
  | .min => "min"
  | .max => "max"

/-- A single aggregated column in place of the projection. -/
structure Aggregate where
  function : AggregateFunction
  columns : List String
  alias? : Option String
  deriving BEq

/-- How many rows to return and how many to skip. -/
structure Limit where
  limit? : Option UInt32 := none
  offset? : Option UInt32 := none
  deriving DecidableEq

/-- The limit that takes effect: a limit of zero rows counts as none. -/
def Limit.effective? (l : Limit) : Option UInt32 :=
  l.limit?.filter (0 < ·)

inductive SetOperation where
  | union
  | intersect
  | except
  deriving DecidableEq

def SetOperation.keyword : SetOperation → String
  | .union => "UNION"
  | .intersect => "INTERSECT"
  | .except => "EXCEPT"

/-- A set operation with another query. -/
inductive Combine (Q : Type) where
  | query (operation : SetOperation) (all : Bool) (query : Q)
  | raw (fragment : Fragment)

inductive LockStrength where
  | update
  | share
  deriving DecidableEq

structure Lock where
  strength : LockStrength
  nowait : Bool
  deriving DecidableEq

/-- A clause. -/
inductive Clause (Q : Type) where
  | «from» (source : Source Q)
  | join (join : Join Q)
  | deepJoin (join : DeepJoin)
  | «where» (condition : Condition Q)
  | group (column : Column Q)
  | having (condition : Condition Q)
  | order (order : Order)
  | limit (limit : Limit)
  | select (column : Column Q)
  | aggregate (aggregate : Aggregate)
  | union (combine : Combine Q)
  | lock (lock : Lock)

variable {Q R : Type}

def Column.map (f : Q → R) : Column Q → Column R
  | .name n => .name n
  | .raw fragment => .raw fragment
  | .query q label => .query (f q) label

/-- Equality of columns, given one of nested queries. -/
def Column.beqBy (r : Q → R → Bool) : Column Q → Column R → Bool
  | .name n, .name n' => n == n'
  | .raw fragment, .raw fragment' => fragment == fragment'
  | .query q label, .query q' label' => r q q' && label == label'
  | _, _ => false

def Combine.map (f : Q → R) : Combine Q → Combine R
  | .query operation all q => .query operation all (f q)
  | .raw fragment => .raw fragment

/-- Equality of set operations, given one of nested queries. -/
def Combine.beqBy (r : Q → R → Bool) : Combine Q → Combine R → Bool
  | .query operation all q, .query operation' all' q' =>
    operation == operation' && all == all' && r q q'
  | .raw fragment, .raw fragment' => fragment == fragment'
  | _, _ => false

namespace Clause

/-- The component a clause is made for. -/
def kind : Clause Q → Component
  | .from _ => .from
  | .join _ => .join
  | .deepJoin _ => .deepJoin
  | .where _ => .where
  | .group _ => .group
  | .having _ => .having
  | .order _ => .order
  | .limit _ => .limit
  | .select _ => .select
  | .aggregate _ => .aggregate
  | .union _ => .union
  | .lock _ => .lock

def source? : Clause Q → Option (Source Q)
  | .from s => some s
  | _ => none

def join? : Clause Q → Option (Join Q)
  | .join j => some j
  | _ => none

def deepJoin? : Clause Q → Option DeepJoin
  | .deepJoin d => some d
  | _ => none

/-- The condition of a WHERE or HAVING clause. -/
def condition? : Clause Q → Option (Condition Q)
  | .where c | .having c => some c
  | _ => none

/-- The column of a SELECT or GROUP BY clause. -/
def column? : Clause Q → Option (Column Q)
  | .select c | .group c => some c
  | _ => none

def aggregate? : Clause Q → Option Aggregate
  | .aggregate a => some a
  | _ => none

def order? : Clause Q → Option Order
  | .order o => some o
  | _ => none

def limit? : Clause Q → Option Limit
  | .limit l => some l
  | _ => none

def combine? : Clause Q → Option (Combine Q)
  | .union c => some c
  | _ => none

def lock? : Clause Q → Option Lock
  | .lock l => some l
  | _ => none

def map (f : Q → R) : Clause Q → Clause R
  | .from s => .from (s.map f)
  | .join j => .join (j.map f)
  | .deepJoin d => .deepJoin d
  | .where c => .where (c.map f)
  | .group c => .group (c.map f)
  | .having c => .having (c.map f)
  | .order o => .order o
  | .limit l => .limit l
  | .select c => .select (c.map f)
  | .aggregate a => .aggregate a
  | .union c => .union (c.map f)
  | .lock l => .lock l

/-- Equality of clauses, given one of nested queries. -/
def beqBy (r : Q → R → Bool) : Clause Q → Clause R → Bool
  | .from s, .from s' => s.beqBy r s'
  | .join j, .join j' => j.beqBy r j'
  | .deepJoin d, .deepJoin d' => d == d'
  | .where c, .where c' => c.beqBy r c'
  | .group c, .group c' => c.beqBy r c'
  | .having c, .having c' => c.beqBy r c'
  | .order o, .order o' => o == o'
  | .limit l, .limit l' => l == l'
  | .select c, .select c' => c.beqBy r c'
  | .aggregate a, .aggregate a' => a == a'
  | .union c, .union c' => c.beqBy r c'
  | .lock l, .lock l' => l == l'
  | _, _ => false

end Clause

end SqlSelect
