import SqlSelect.Compiler.Basic
import SqlSelect.Text.Lowering

/-!
# Writing conditions

A list of conditions is written as `a AND b OR c`. Conditions that write nothing, such as an empty
group, are passed over, and the first one that writes something has no connective. How a condition
is negated depends on its form.
-/

namespace SqlSelect

/-- A written condition with the way it is joined to the one before. -/
structure Term where
  byOr : Bool
  sql : String

def Term.connective (t : Term) : String :=
  if t.byOr then " OR " else " AND "

/-- The terms with their connectives; the first one has none. -/
def Term.join : List Term → String
  | [] => ""
  | t :: ts => t.sql ++ String.join (ts.map fun t => t.connective ++ t.sql)

/-- `NOT` in front of a predicate in parentheses. -/
def negate (negated : Bool) (sql : String) : String :=
  if negated then "NOT (" ++ sql ++ ")" else sql

/-- The word `NOT` with a blank, where it stands inside a predicate. -/
def notWord (negated : Bool) : String :=
  if negated then "NOT " else ""

namespace Compiler

variable (c : Compiler)

mutual

/-- Writes a condition with the handler of its tag. -/
def writeCondition : Condition SubSelect → CompileM String
  | ⟨byOr, negated, p⟩ =>
    match c.registry.resolve p.tag with
    | .error e => throw e
    | .ok (.custom write) => write c.dialect ⟨byOr, negated, p⟩
    | .ok (.standard form) => writePredicate form negated p

/-- Writes a predicate by the rule for a form; the predicate must have that form. -/
def writePredicate : PredicateForm → Bool → Predicate SubSelect → CompileM String
  | .compare, negated, .compare column operator value => do
    let mark ← CompileM.bindValue value
    return negate negated (c.dialect.wrap column ++ " " ++ operator ++ " " ++ mark)
  | .text, negated, .text column kind value caseSensitive => do
    let column := c.dialect.wrap column
    let pattern := kind.pattern value
    if caseSensitive then
      let mark ← CompileM.bindValue (.text pattern)
      return negate negated (column ++ " LIKE " ++ mark)
    else
      let mark ← CompileM.bindValue (.text (Text.lowercase pattern))
      return negate negated (c.dialect.lower column ++ " LIKE " ++ mark)
  | .compareColumns, negated, .compareColumns first operator second =>
    return negate negated
      (c.dialect.wrap first ++ " " ++ operator ++ " " ++ c.dialect.wrap second)
  | .group, negated, .group items => do
    let inner := Term.join (← writeTerms items)
    return if inner.isEmpty then "" else notWord negated ++ "(" ++ inner ++ ")"
  | .raw, negated, .raw fragment => do
    let sql ← CompileM.fragment fragment
    return negate negated sql
  | .isNull, negated, .isNull column =>
    return c.dialect.wrap column ++ " IS " ++ notWord negated ++ "NULL"
  | .between, negated, .between column lower upper => do
    let low ← CompileM.bindValue lower
    let high ← CompileM.bindValue upper
    return c.dialect.wrap column ++ " " ++ notWord negated ++ "BETWEEN " ++ low ++ " AND " ++ high
  | .oneOf, negated, .oneOf column values => do
    if values.isEmpty then
      return if negated then "1 = 1" else "1 = 0"
    else
      let marks ← values.mapM CompileM.bindValue
      return c.dialect.wrap column ++ " " ++ notWord negated ++ "IN (" ++
        String.intercalate ", " marks ++ ")"
  | .inQuery, negated, .inQuery column query => do
    let sub ← query.write
    return c.dialect.wrap column ++ " " ++ notWord negated ++ "IN (" ++ sub ++ ")"
  | .existsQuery, negated, .existsQuery query => do
    let sub ← query.write
    return notWord negated ++ "EXISTS (" ++ sub ++ ")"
  | _, _, p => throw (.invalidClause "condition" p.kind)

/-- Writes conditions in order and keeps those that are not empty. -/
def writeTerms : List (Condition SubSelect) → CompileM (List Term)
  | [] => pure []
  | condition :: rest => do
    let sql ← writeCondition condition
    let terms ← writeTerms rest
    return if sql.isEmpty then terms else ⟨condition.byOr, sql⟩ :: terms

end

/-- Writes a list of conditions with their connectives. -/
def writeConditions (conditions : List (Condition SubSelect)) : CompileM String := do
  return Term.join (← c.writeTerms conditions)

end Compiler

end SqlSelect
