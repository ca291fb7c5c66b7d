import SqlSelect.Placeholder
import SqlSelect.Query.Clause

/-!
# Dialects

Everything in which databases differ: the quote of identifiers, how set operations are written,
random order, row locks and the style of placeholders. A new dialect is a new value of `Dialect`.
-/

namespace SqlSelect

/-- How the queries of set operations are written. -/
inductive CombineStyle where
  | omitted
  | bare
  | parenthesized
  deriving DecidableEq

/-- The standard text of a row lock. -/
def Lock.sql (lock : Lock) : String :=
  (match lock.strength with
    | .update => "FOR UPDATE"
    | .share => "FOR SHARE") ++ (if lock.nowait then " NOWAIT" else "")

/-- What is particular to a database. -/
structure Dialect where
  name : String
  /-- The quote of identifiers; without one, plain words stay bare. -/
  quote? : Option Char := none
  combines : CombineStyle := .omitted
  /-- The expression for random order with an optional seed. -/
  random : Option String → String := fun _ => "RANDOM()"
  /-- The text of a row lock, if the database has them. -/
  lock? : Lock → Option String := fun _ => none
  /-- Whether deep joins are expanded before a query is compiled. -/
  expandsDeepJoins : Bool := true
  /-- The last change to the text of a statement. -/
  finish : String → Array Value → String := fun sql _ => sql

namespace Dialect

/-- A name that may be qualified and may carry an alias. -/
def wrap (d : Dialect) (name : String) : String :=
  Identifier.wrap d.quote? name

/-- One segment of a name. -/
def wrapSegment (d : Dialect) (segment : String) : String :=
  Identifier.wrapSegment d.quote? segment

/-- A list of names. -/
def wrapList (d : Dialect) (names : List String) : String :=
  Identifier.wrapList d.quote? names

def lower (_ : Dialect) (expression : String) : String :=
  "LOWER(" ++ expression ++ ")"

def upper (_ : Dialect) (expression : String) : String :=
  "UPPER(" ++ expression ++ ")"

def generic : Dialect where
  name := "generic"

def postgres : Dialect where
  name := "postgres"
  quote? := some '\x22'
  combines := .parenthesized
  lock? := fun lock => some lock.sql
  finish := fun sql _ => Placeholder.number sql

def mysql : Dialect where
  name := "mysql"
  quote? := some '\x60'
  combines := .parenthesized
  random := fun seed? => "RAND(" ++ seed?.getD "" ++ ")"
  lock? := fun lock => some lock.sql

def sqlite : Dialect where
  name := "sqlite"
  quote? := some '\x22'
  combines := .bare

/-- The dialects of the library. -/
def builtin : List Dialect :=
  [generic, postgres, mysql, sqlite]

end Dialect

end SqlSelect
