import SqlSelect.Compiler.Compilation

/-!
# Statements assembled in place

A second way to write a query: every value is put where it belongs, and nothing is bound beside the
text. What "put" means is left to an `Assembly`, which says how text, values and fragments become
pieces of some type and how pieces are trimmed and found empty. Pieces are joined by `++`.

There are no errors here. A misplaced clause is passed over and a custom predicate is written as
nothing; the compiler refuses both, so for a query that compiles the two ways can be compared.
-/

namespace SqlSelect

/-- How the pieces of a statement are made. -/
structure Assembly (A : Type) where
  text : String → A
  value : Value → A
  fragment : Fragment → A
  trim : A → A
  isEmpty : A → Bool

namespace Assembly

variable {A : Type} [Append A] (w : Assembly A) (d : Dialect)

/-- Pieces with a separator between them. -/
def join (separator : String) : List A → A
  | [] => w.text ""
  | [a] => a
  | a :: b :: as => a ++ (w.text separator ++ join separator (b :: as))

/-- A piece unless it is empty. -/
def nonEmpty? (a : A) : Option A :=
  if w.isEmpty a then none else some a

/-- Pieces, each after its connective. -/
def connect : List (Bool × A) → A
  | [] => w.text ""
  | (byOr, a) :: ts => w.text (if byOr then " OR " else " AND ") ++ a ++ connect ts

/-- Pieces with their connectives; the first one has none. -/
def joinTerms : List (Bool × A) → A
  | [] => w.text ""
  | (_, a) :: ts => a ++ w.connect ts

def negate (negated : Bool) (a : A) : A :=
  if negated then w.text "NOT (" ++ a ++ w.text ")" else a

mutual

def predicate (negated : Bool) : Predicate A → A
  | .compare column operator value =>
    w.negate negated
      (w.text (d.wrap column ++ " ") ++ w.text operator ++ w.text " " ++ w.value value)
  | .text column kind value caseSensitive =>
    if caseSensitive then
      w.negate negated
        (w.text (d.wrap column ++ " LIKE ") ++ w.value (.text (kind.pattern value)))
    else
      w.negate negated (w.text (d.lower (d.wrap column) ++ " LIKE ") ++
        w.value (.text (Text.lowercase (kind.pattern value))))
  | .compareColumns first operator second =>
    w.negate negated
      (w.text (d.wrap first ++ " ") ++ w.text operator ++ w.text " " ++ w.text (d.wrap second))
  | .group items =>
    let inner := w.joinTerms (terms items)
    if w.isEmpty inner then w.text "" else w.text (notWord negated ++ "(") ++ inner ++ w.text ")"
  | .raw fragment => w.negate negated (w.fragment fragment)
  | .isNull column => w.text (d.wrap column ++ " IS " ++ notWord negated ++ "NULL")
  | .between column lower upper =>
    w.text (d.wrap column ++ " " ++ notWord negated ++ "BETWEEN ") ++ w.value lower ++
      w.text " AND " ++ w.value upper
  | .oneOf column values =>
    if values.isEmpty then
      w.text (if negated then "1 = 1" else "1 = 0")
    else
      w.text (d.wrap column ++ " " ++ notWord negated ++ "IN (") ++
        w.join ", " (values.map w.value) ++ w.text ")"
  | .inQuery column query =>
    w.text (d.wrap column ++ " " ++ notWord negated ++ "IN (") ++ query ++ w.text ")"
  | .existsQuery query => w.text (notWord negated ++ "EXISTS (") ++ query ++ w.text ")"
  | .custom .. => w.text ""

/-- The conditions that are not empty, each with its connective. -/
def terms : List (Condition A) → List (Bool × A)
  | [] => []
  | ⟨byOr, negated, p⟩ :: rest =>
    let a := predicate negated p
    if w.isEmpty a then terms rest else (byOr, a) :: terms rest

end

def conditions (items : List (Condition A)) : A :=
  w.joinTerms (w.terms d items)

def source : Source A → A
  | .table name (some label) => w.text (d.wrap name ++ " AS " ++ d.wrapSegment label)
  | .table name none => w.text (d.wrap name)
  | .raw fragment => w.fragment fragment
  | .query query (some label) =>
    w.text "(" ++ query ++ w.text (") AS " ++ d.wrapSegment label)
  | .query query none => w.text "(" ++ query ++ w.text ")"

def column : Column A → A
  | .name name => w.text (d.wrap name)
  | .raw fragment => w.fragment fragment
  | .query query label => w.text "(" ++ query ++ w.text (") AS " ++ d.wrapSegment label)

def columns (items : List (Column A)) : A :=
  w.join ", " (items.map (w.column d))

def aggregate (s : Store A) (isDistinct : Bool) : Option A :=
  (s.get Clause.aggregate? .aggregate).head?.map fun aggregate =>
    let columns := d.wrapList aggregate.columns
    let columns := if isDistinct && columns != "*" then "DISTINCT " ++ columns else columns
    let label := aggregate.alias?.getD aggregate.function.defaultAlias
    w.text ("SELECT " ++ aggregate.function.keyword ++ "(" ++ columns ++ ") AS " ++
      d.wrapSegment label)

def projection (s : Store A) (isDistinct : Bool) : Option A :=
  if s.has .aggregate then none
  else
    let items := s.get Clause.column? .select
    let list := if items.isEmpty then w.text "*" else w.columns d items
    some (w.text ("SELECT " ++ (if isDistinct then "DISTINCT " else "")) ++ list)

def fromSource (s : Store A) : Option A :=
  (s.get Clause.source? .from).head?.map fun source => w.text "FROM " ++ w.source d source

def joinOne (j : Join A) : A :=
  let on := w.conditions d j.on
  w.text (j.kind.keyword ++ " ") ++ w.source d j.table ++
    (if w.isEmpty on then w.text "" else w.text " ON " ++ on)

def joins (s : Store A) : Option A :=
  w.nonEmpty? (w.join " " ((s.get Clause.join? .join).map (w.joinOne d)))

def restriction (s : Store A) : Option A :=
  if s.has .from && s.has .where then
    (w.nonEmpty? (w.conditions d (s.get Clause.condition? .where))).map (w.text "WHERE " ++ ·)
  else none

def groups (s : Store A) : Option A :=
  let items := s.get Clause.column? .group
  if items.isEmpty then none else some (w.text "GROUP BY " ++ w.columns d items)

def havings (s : Store A) : Option A :=
  w.nonEmpty? (w.joinTerms ((w.terms d (s.get Clause.condition? .having)).map fun t =>
    (t.1, w.text "HAVING " ++ t.2)))

def order : Order → A
  | .column column direction => w.text (d.wrap column ++ " " ++ direction.keyword)
  | .raw fragment => w.fragment fragment
  | .random seed? => w.text (d.random seed?)

def orders (s : Store A) : Option A :=
  let items := s.get Clause.order? .order
  if items.isEmpty then none else some (w.text "ORDER BY " ++ w.join ", " (items.map (w.order d)))

def number (keyword : String) (n? : Option UInt32) : Option A :=
  n?.map fun n => w.text (keyword ++ " ") ++ w.value (toValue n)

def limit (s : Store A) : Option A :=
  w.number "LIMIT" ((s.get Clause.limit? .limit).head?.bind (·.effective?))

def offset (s : Store A) : Option A :=
  w.number "OFFSET" ((s.get Clause.limit? .limit).head?.bind (·.offset?))

def combine (parenthesize : Bool) : Combine A → A
  | .query operation all query =>
    w.text (operation.keyword ++ (if all then " ALL" else "") ++ " ") ++
      (if parenthesize then w.text "(" ++ query ++ w.text ")" else query)
  | .raw fragment => w.fragment fragment

def combines (s : Store A) (parenthesize : Bool) : Option A :=
  w.nonEmpty? (w.join " " ((s.get Clause.combine? .union).map (w.combine parenthesize)))

def setOperations (s : Store A) : Option A :=
  match d.combines with
  | .omitted => none
  | .bare => w.combines s false
  | .parenthesized => w.combines s true

def lock (s : Store A) : Option A :=
  ((s.get Clause.lock? .lock).head?.bind d.lock?).map w.text

/-- The components in the order in which they are written. -/
def components (s : Store A) (isDistinct : Bool) : List (Option A) :=
  [w.aggregate d s isDistinct, w.projection d s isDistinct, w.fromSource d s, w.joins d s,
    w.restriction d s, w.groups d s, w.havings d s, w.orders d s, w.limit s, w.offset s,
    w.setOperations d s, w.lock d s]

/-- A query whose deep joins are expanded and whose nested queries are written. -/
def select (s : Store A) (isDistinct : Bool) : A :=
  w.join " " ((((w.components d s isDistinct).filterMap id).map w.trim).filter (!w.isEmpty ·))

/-- A query tree. Deep joins are expanded as the compiler expands them. -/
def query (c : Compiler) : Query → A :=
  Query.fold fun s isDistinct => w.select c.dialect (c.expand s).store isDistinct

end Assembly

end SqlSelect
