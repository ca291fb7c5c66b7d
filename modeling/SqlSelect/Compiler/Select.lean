import SqlSelect.Compiler.Condition

/-!
# Writing a SELECT

The components of a query in the fixed order in which they are written. Each gives a fragment or
nothing; the fragments are trimmed, and those that are left are joined by single blanks. Reading a
component checks all its clauses first, also where only the first one is used.
-/

namespace SqlSelect

/-- A text unless it is empty. -/
def nonEmpty? (sql : String) : Option String :=
  if sql.isEmpty then none else some sql

/-- The fragments that are not blank, joined by single blanks. -/
def joinFragments (fragments : List (Option String)) : String :=
  String.intercalate " " (((fragments.filterMap id).map Text.trim).filter (!·.isEmpty))

namespace Compiler

variable (c : Compiler)

/-- All payloads of a component, or the error of the first misplaced clause. -/
def payloads {α : Type} (s : Store SubSelect) (payload? : Clause SubSelect → Option α)
    (component : Component) : CompileM (List α) :=
  CompileM.ofExcept (s.getStrict payload? component)

/-- The first payload of a component, after all of them have been checked. -/
def firstPayload? {α : Type} (s : Store SubSelect) (payload? : Clause SubSelect → Option α)
    (component : Component) : CompileM (Option α) := do
  return (← payloads s payload? component).head?

def writeSource : Source SubSelect → CompileM String
  | .table name alias? =>
    return match alias? with
      | some label => c.dialect.wrap name ++ " AS " ++ c.dialect.wrapSegment label
      | none => c.dialect.wrap name
  | .raw fragment => CompileM.fragment fragment
  | .query query alias? => do
    let sub ← query.write
    return match alias? with
      | some label => "(" ++ sub ++ ") AS " ++ c.dialect.wrapSegment label
      | none => "(" ++ sub ++ ")"

def writeColumn : Column SubSelect → CompileM String
  | .name name => return c.dialect.wrap name
  | .raw fragment => CompileM.fragment fragment
  | .query query label => do
    let sub ← query.write
    return "(" ++ sub ++ ") AS " ++ c.dialect.wrapSegment label

def writeColumns (columns : List (Column SubSelect)) : CompileM String := do
  return String.intercalate ", " (← columns.mapM c.writeColumn)

/-- A distinct aggregate applies to its columns, but not to all rows at once. -/
def writeAggregate (s : Store SubSelect) (isDistinct : Bool) : CompileM (Option String) := do
  let some aggregate ← firstPayload? s Clause.aggregate? .aggregate | return none
  let columns := c.dialect.wrapList aggregate.columns
  let columns := if isDistinct && columns != "*" then "DISTINCT " ++ columns else columns
  let label := aggregate.alias?.getD aggregate.function.defaultAlias
  return some ("SELECT " ++ aggregate.function.keyword ++ "(" ++ columns ++ ") AS " ++
    c.dialect.wrapSegment label)

/-- The projection; an aggregate takes its place. -/
def writeProjection (s : Store SubSelect) (isDistinct : Bool) : CompileM (Option String) := do
  if s.has .aggregate then
    return none
  else
    let columns ← payloads s Clause.column? .select
    let list ← if columns.isEmpty then pure "*" else c.writeColumns columns
    return some ("SELECT " ++ (if isDistinct then "DISTINCT " else "") ++ list)

def writeFrom (s : Store SubSelect) : CompileM (Option String) := do
  let some source ← firstPayload? s Clause.source? .from | return none
  return some ("FROM " ++ (← c.writeSource source))

def writeJoin (join : Join SubSelect) : CompileM String := do
  let table ← c.writeSource join.table
  let on ← c.writeConditions join.on
  return join.kind.keyword ++ " " ++ table ++ (if on.isEmpty then "" else " ON " ++ on)

def writeJoins (s : Store SubSelect) : CompileM (Option String) := do
  let joins ← payloads s Clause.join? .join
  return nonEmpty? (String.intercalate " " (← joins.mapM c.writeJoin))

/-- The restriction of rows, which needs a source. -/
def writeWhere (s : Store SubSelect) : CompileM (Option String) := do
  if s.has .from && s.has .where then
    let conditions ← payloads s Clause.condition? .where
    let sql ← c.writeConditions conditions
    return (nonEmpty? sql).map ("WHERE " ++ ·)
  else
    return none

def writeGroups (s : Store SubSelect) : CompileM (Option String) := do
  let columns ← payloads s Clause.column? .group
  if columns.isEmpty then
    return none
  else
    return some ("GROUP BY " ++ (← c.writeColumns columns))

/-- The word HAVING stands before every condition. -/
def writeHavings (s : Store SubSelect) : CompileM (Option String) := do
  let conditions ← payloads s Clause.condition? .having
  let terms ← c.writeTerms conditions
  return nonEmpty? (Term.join (terms.map fun t => ⟨t.byOr, "HAVING " ++ t.sql⟩))

def writeOrder : Order → CompileM String
  | .column column direction => return c.dialect.wrap column ++ " " ++ direction.keyword
  | .raw fragment => CompileM.fragment fragment
  | .random seed? => return c.dialect.random seed?

def writeOrders (s : Store SubSelect) : CompileM (Option String) := do
  let orders ← payloads s Clause.order? .order
  if orders.isEmpty then
    return none
  else
    return some ("ORDER BY " ++ String.intercalate ", " (← orders.mapM c.writeOrder))

/-- A keyword with a bound number. -/
def writeNumber (keyword : String) : Option UInt32 → CompileM (Option String)
  | some n => return some (keyword ++ " " ++ (← CompileM.bindValue (toValue n)))
  | none => return none

def writeLimit (s : Store SubSelect) : CompileM (Option String) := do
  let limit? ← firstPayload? s Clause.limit? .limit
  writeNumber "LIMIT" (limit?.bind (·.effective?))

def writeOffset (s : Store SubSelect) : CompileM (Option String) := do
  let limit? ← firstPayload? s Clause.limit? .limit
  writeNumber "OFFSET" (limit?.bind (·.offset?))

def writeCombine (parenthesize : Bool) : Combine SubSelect → CompileM String
  | .query operation all query => do
    let sub ← query.write
    return operation.keyword ++ (if all then " ALL" else "") ++ " " ++
      (if parenthesize then "(" ++ sub ++ ")" else sub)
  | .raw fragment => CompileM.fragment fragment

def writeCombines (s : Store SubSelect) (parenthesize : Bool) : CompileM (Option String) := do
  let combines ← payloads s Clause.combine? .union
  return nonEmpty? (String.intercalate " " (← combines.mapM (writeCombine parenthesize)))

/-- Set operations in the style of the dialect. -/
def writeSetOperations (s : Store SubSelect) : CompileM (Option String) :=
  match c.dialect.combines with
  | .omitted => return none
  | .bare => writeCombines s false
  | .parenthesized => writeCombines s true

def writeLock (s : Store SubSelect) : CompileM (Option String) := do
  return (← firstPayload? s Clause.lock? .lock).bind c.dialect.lock?

/-- The components in the order in which they are written. -/
def fragments (s : Store SubSelect) (isDistinct : Bool) : List (CompileM (Option String)) :=
  [c.writeAggregate s isDistinct, c.writeProjection s isDistinct, c.writeFrom s, c.writeJoins s,
    c.writeWhere s, c.writeGroups s, c.writeHavings s, c.writeOrders s, writeLimit s,
    writeOffset s, c.writeSetOperations s, c.writeLock s]

/-- Writes a query whose deep joins are expanded and whose nested queries are ready. -/
def writeSelect (s : Store SubSelect) (isDistinct : Bool) : CompileM String := do
  return joinFragments (← (c.fragments s isDistinct).mapM id)

end Compiler

end SqlSelect
