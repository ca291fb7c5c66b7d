import SqlSelect.Query.Condition

/-!
# Joins and deep joins

A join names its source and its conditions. A deep join is a path of relations, such as
`author.company`, that stands for a chain of joins; it says how the keys of the chain are found.
-/

namespace SqlSelect

inductive JoinKind where
  | inner
  | left
  | right
  | full
  | cross
  deriving DecidableEq

def JoinKind.keyword : JoinKind → String
  | .inner => "INNER JOIN"
  | .left => "LEFT JOIN"
  | .right => "RIGHT JOIN"
  | .full => "FULL JOIN"
  | .cross => "CROSS JOIN"

/-- An explicit join. Without conditions it has no ON. -/
structure Join (Q : Type) where
  kind : JoinKind
  table : Source Q
  on : List (Condition Q)

namespace Join

variable {Q R : Type}

/-- A join of a table on the equality of two columns. -/
def onColumns (kind : JoinKind) (table first second : String) : Join Q :=
  ⟨kind, .table table none, [Condition.compareColumns first "=" second]⟩

def map (f : Q → R) (join : Join Q) : Join R :=
  ⟨join.kind, join.table.map f, join.on.map (Condition.map f)⟩

/-- Equality of joins, given one of nested queries. -/
def beqBy (r : Q → R → Bool) (join : Join Q) (join' : Join R) : Bool :=
  join.kind == join'.kind && join.table.beqBy r join'.table &&
    Condition.beqListBy r join.on join'.on

end Join

/-- Makes the name of a key from a path segment. Generators are told apart by their mark, not by
what they generate. -/
structure KeyGenerator where
  mark : Nat
  generate : String → String

instance : BEq KeyGenerator := ⟨fun g h => g.mark == h.mark⟩

/-- A path of relations from the source of a query. Settings that are not given are taken from the
expander. -/
structure DeepJoin where
  expression : String
  kind : JoinKind := .inner
  sourceKey? : Option KeyGenerator := none
  targetKey? : Option KeyGenerator := none
  sourceKeySuffix? : Option String := none
  targetKeyName? : Option String := none
  deriving BEq

/-- The names along the path: trimmed, without the empty ones. -/
def DeepJoin.segments (d : DeepJoin) : List String :=
  ((Identifier.splitDots d.expression.toList).map fun part =>
    String.ofList (Text.trimChars part)).filter (!·.isEmpty)

/-- One step of a chain: the source's key column equals the target's. -/
structure Link where
  source : String
  target : String
  sourceKey : String
  targetKey : String
  deriving DecidableEq

/-- The join that a link stands for. -/
def Link.toJoin {Q : Type} (kind : JoinKind) (link : Link) : Join Q :=
  .onColumns kind link.target (link.source ++ "." ++ link.sourceKey)
    (link.target ++ "." ++ link.targetKey)

end SqlSelect
