import SqlSelect.Compiler.Select
import SqlSelect.Query.Basic
import SqlSelect.Statement

/-!
# Compiling queries

A nested query is expanded and written where it stands, on a copy: the query that holds it is not
changed. The outermost query is expanded in place, so a compilation also returns the query it leaves
behind, whether it succeeds or not.
-/

namespace SqlSelect

/-- What compiling a query leaves: the statement or the error, the query, and the events. -/
structure Compilation where
  outcome : Except CompileError Statement
  query : Query
  events : List Event

namespace Compiler

variable (c : Compiler)

/-- Writes a query, given its clauses with the nested queries ready: its deep joins are expanded
first, and a failed expansion is a failure here. -/
def writeExpanded (s : Store SubSelect) (isDistinct : Bool) : CompileM String := do
  let expansion := c.expand s
  CompileM.record expansion.events
  match expansion.failure? with
  | some e => throw e
  | none => c.writeSelect expansion.store isDistinct

/-- Makes a nested query ready to be written. -/
def prepare : Query → SubSelect :=
  Query.fold fun s isDistinct => ⟨⟨s.map SubSelect.query, isDistinct⟩, c.writeExpanded s isDistinct⟩

/-- Writes a nested query. -/
def subselect (q : Query) : CompileM String :=
  (c.prepare q).write

/-- Writes a query without expanding its own deep joins. -/
def select (q : Query) : CompileM String :=
  c.writeSelect (q.clauses.map c.prepare) q.isDistinct

def condition (condition : Condition Query) : CompileM String :=
  c.writeCondition (condition.map c.prepare)

def conditions (conditions : List (Condition Query)) : CompileM String :=
  c.writeConditions (conditions.map (Condition.map c.prepare))

def source (source : Source Query) : CompileM String :=
  c.writeSource (source.map c.prepare)

/-- The set operations of a query, with or without parentheses around the other queries. -/
def combines (q : Query) (parenthesize : Bool) : CompileM (Option String) :=
  writeCombines (q.clauses.map c.prepare) parenthesize

/-- The set operations of a query in the style of the dialect. -/
def setOperations (q : Query) : CompileM (Option String) :=
  c.writeSetOperations (q.clauses.map c.prepare)

/-- Compiles a query. -/
def compile (q : Query) : Compilation :=
  let expansion := c.expand q.clauses
  let expanded : Query := ⟨expansion.store, q.isDistinct⟩
  let started := .compiling c.dialect.name :: expansion.events
  match expansion.failure? with
  | some e => ⟨.error e, expanded, started⟩
  | none =>
    match c.select expanded {} with
    | .error e ctx => ⟨.error e, expanded, started ++ ctx.events.toList⟩
    | .ok text ctx =>
      let sql := c.dialect.finish text ctx.bindings
      ⟨.ok ⟨sql, ctx.bindings⟩, expanded,
        started ++ ctx.events.toList ++ [.compiled sql ctx.bindings.size]⟩

end Compiler

end SqlSelect
