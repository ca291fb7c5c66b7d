/-!
# Components

The parts of a statement under which clauses are stored. Every clause also has a kind, the
component it is made for; storing a clause elsewhere is possible and is an error when that component
is compiled.
-/

namespace SqlSelect

/-- A part of a statement. -/
inductive Component where
  | «from»
  | join
  | deepJoin
  | «where»
  | group
  | having
  | order
  | limit
  | select
  | aggregate
  | union
  | lock
  deriving DecidableEq

namespace Component

def name : Component → String
  | .from => "from"
  | .join => "join"
  | .deepJoin => "deep_join"
  | .where => "where"
  | .group => "group"
  | .having => "having"
  | .order => "order"
  | .limit => "limit"
  | .select => "select"
  | .aggregate => "aggregate"
  | .union => "union"
  | .lock => "lock"

/-- All components in listing order. -/
def all : List Component :=
  [.from, .join, .deepJoin, .where, .group, .having, .order, .limit, .select, .aggregate, .union,
    .lock]

theorem mem_all (c : Component) : c ∈ all := by
  cases c <;> decide

end Component

end SqlSelect
