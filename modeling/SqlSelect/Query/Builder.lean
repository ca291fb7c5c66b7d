import SqlSelect.Query.Basic

/-!
# Building queries

One operation per clause. A query has one source, one aggregate, one limit and one lock, so setting
one of these replaces the one before; all other operations append.
-/

namespace SqlSelect.Query

/-- Appends a clause under the component it is made for. -/
def push (q : Query) (clause : Clause Query) : Query :=
  { q with clauses := q.clauses.add clause.kind clause }

/-- Makes a clause the only one of its component. -/
def set (q : Query) (clause : Clause Query) : Query :=
  { q with clauses := q.clauses.replace clause.kind clause }

def fromSource (q : Query) (source : Source Query) : Query :=
  q.set (.from source)

def fromTable (q : Query) (table : String) : Query :=
  q.fromSource (.table table none)

def fromTableAs (q : Query) (table label : String) : Query :=
  q.fromSource (.table table (some label))

def fromRaw (q : Query) (fragment : Fragment) : Query :=
  q.fromSource (.raw fragment)

def fromQuery (q nested : Query) (label : String) : Query :=
  q.fromSource (.query nested (some label))

/-- Adds projected columns, one clause for each. -/
def select (q : Query) (columns : List String) : Query :=
  columns.foldl (fun q column => q.push (.select (.name column))) q

def selectRaw (q : Query) (fragment : Fragment) : Query :=
  q.push (.select (.raw fragment))

def selectQuery (q nested : Query) (label : String) : Query :=
  q.push (.select (.query nested label))

/-- Asks for distinct rows. -/
def distinct (q : Query) : Query :=
  { q with isDistinct := true }

/-- Replaces the projection by an aggregate. -/
def aggregate (q : Query) (function : AggregateFunction) (columns : List String) : Query :=
  q.set (.aggregate ⟨function, columns, none⟩)

/-- Counts all rows. -/
def count (q : Query) : Query :=
  q.aggregate .count []

def joinWith (q : Query) (join : Join Query) : Query :=
  q.push (.join join)

def join (q : Query) (table first second : String) : Query :=
  q.joinWith (.onColumns .inner table first second)

def leftJoin (q : Query) (table first second : String) : Query :=
  q.joinWith (.onColumns .left table first second)

def rightJoin (q : Query) (table first second : String) : Query :=
  q.joinWith (.onColumns .right table first second)

def crossJoin (q : Query) (table : String) : Query :=
  q.joinWith ⟨.cross, .table table none, []⟩

def deepJoinWith (q : Query) (join : DeepJoin) : Query :=
  q.push (.deepJoin join)

/-- Adds an inner deep join along a path. -/
def deepJoin (q : Query) (path : String) : Query :=
  q.deepJoinWith ⟨path, .inner, none, none, none, none⟩

def whereCondition (q : Query) (condition : Condition Query) : Query :=
  q.push (.where condition)

def filter (q : Query) (column operator : String) (value : Value) : Query :=
  q.whereCondition (.compare column operator value)

def orFilter (q : Query) (column operator : String) (value : Value) : Query :=
  q.whereCondition (Condition.compare column operator value).or

/-- Adds grouping columns, one clause for each. -/
def groupBy (q : Query) (columns : List String) : Query :=
  columns.foldl (fun q column => q.push (.group (.name column))) q

def groupByRaw (q : Query) (fragment : Fragment) : Query :=
  q.push (.group (.raw fragment))

def havingCondition (q : Query) (condition : Condition Query) : Query :=
  q.push (.having condition)

def having (q : Query) (column operator : String) (value : Value) : Query :=
  q.havingCondition (.compare column operator value)

def orHaving (q : Query) (column operator : String) (value : Value) : Query :=
  q.havingCondition (Condition.compare column operator value).or

def orderBy (q : Query) (column : String) : Query :=
  q.push (.order (.column column .ascending))

def orderByDescending (q : Query) (column : String) : Query :=
  q.push (.order (.column column .descending))

def orderByRaw (q : Query) (fragment : Fragment) : Query :=
  q.push (.order (.raw fragment))

def orderByRandom (q : Query) (seed? : Option String) : Query :=
  q.push (.order (.random seed?))

/-- The limit and offset set so far. -/
def currentLimit (q : Query) : Limit :=
  (q.clauses.getFirst? Clause.limit? .limit).getD ⟨none, none⟩

/-- Sets the number of rows and keeps the offset. -/
def limit (q : Query) (n : UInt32) : Query :=
  q.set (.limit { q.currentLimit with limit? := some n })

/-- Sets the number of rows to skip and keeps the limit. -/
def offset (q : Query) (n : UInt32) : Query :=
  q.set (.limit { q.currentLimit with offset? := some n })

def combine (q : Query) (operation : SetOperation) (all : Bool) (other : Query) : Query :=
  q.push (.union (.query operation all other))

def union (q other : Query) : Query :=
  q.combine .union false other

def unionAll (q other : Query) : Query :=
  q.combine .union true other

def combineRaw (q : Query) (fragment : Fragment) : Query :=
  q.push (.union (.raw fragment))

def lock (q : Query) (strength : LockStrength) (nowait : Bool) : Query :=
  q.set (.lock ⟨strength, nowait⟩)

end SqlSelect.Query
