import SqlSelect.Error
import SqlSelect.Query.Clause

/-!
# The clause store

The clauses of one query in insertion order, each under a component and a number of its own. A
number is given once and never again; the store neither reorders nor merges clauses.
-/

namespace SqlSelect

/-- A stored clause. -/
structure Entry (Q : Type) where
  id : Nat
  component : Component
  clause : Clause Q

/-- The clauses of a query. The next clause gets the number `nextId`. -/
structure Store (Q : Type) where
  entries : List (Entry Q) := []
  nextId : Nat := 0

variable {Q R : Type}

def Entry.map (f : Q → R) (e : Entry Q) : Entry R :=
  ⟨e.id, e.component, e.clause.map f⟩

def Entry.beqBy (r : Q → R → Bool) (e : Entry Q) (e' : Entry R) : Bool :=
  e.id == e'.id && e.component == e'.component && e.clause.beqBy r e'.clause

namespace Store

/-- Appends a clause under a component. -/
def add (s : Store Q) (component : Component) (clause : Clause Q) : Store Q :=
  ⟨s.entries ++ [⟨s.nextId, component, clause⟩], s.nextId + 1⟩

/-- Drops every clause of a component, then appends one. -/
def replace (s : Store Q) (component : Component) (clause : Clause Q) : Store Q :=
  add ⟨s.entries.filter (·.component != component), s.nextId⟩ component clause

/-- The clause with a number. -/
def find? (s : Store Q) (id : Nat) : Option (Clause Q) :=
  (s.entries.find? (·.id == id)).map (·.clause)

/-- Drops the clause with a number. -/
def erase (s : Store Q) (id : Nat) : Store Q :=
  ⟨s.entries.eraseP (·.id == id), s.nextId⟩

/-- The entries of a component in insertion order. -/
def entriesOf (s : Store Q) (component : Component) : List (Entry Q) :=
  s.entries.filter (·.component == component)

/-- The clauses of a component in insertion order. -/
def clauses (s : Store Q) (component : Component) : List (Clause Q) :=
  (s.entriesOf component).map (·.clause)

def has (s : Store Q) (component : Component) : Bool :=
  s.entries.any (·.component == component)

def size (s : Store Q) : Nat :=
  s.entries.length

def isEmpty (s : Store Q) : Bool :=
  s.entries.isEmpty

/-- The payloads of one type under a component; clauses of other types are passed over. -/
def get {α : Type} (s : Store Q) (payload? : Clause Q → Option α) (component : Component) :
    List α :=
  (s.clauses component).filterMap payload?

/-- The first payload of one type under a component. -/
def getFirst? {α : Type} (s : Store Q) (payload? : Clause Q → Option α) (component : Component) :
    Option α :=
  (s.clauses component).findSome? payload?

/-- The payload of a clause that is of the type asked for and of the kind of its component. -/
def strictPayload {α : Type} (payload? : Clause Q → Option α) (component : Component)
    (clause : Clause Q) : Except CompileError α :=
  match payload? clause with
  | some payload =>
    if clause.kind = component then .ok payload
    else .error (.invalidClause component.name clause.kind.name)
  | none => .error (.invalidClause component.name clause.kind.name)

/-- All payloads under a component; a clause of another type or kind is an error. -/
def getStrict {α : Type} (s : Store Q) (payload? : Clause Q → Option α) (component : Component) :
    Except CompileError (List α) :=
  (s.clauses component).mapM (strictPayload payload? component)

def map (f : Q → R) (s : Store Q) : Store R :=
  ⟨s.entries.map (Entry.map f), s.nextId⟩

/-- Equality of entries in order. -/
def beqEntriesBy (r : Q → R → Bool) : List (Entry Q) → List (Entry R) → Bool
  | [], [] => true
  | e :: es, e' :: es' => e.beqBy r e' && beqEntriesBy r es es'
  | _, _ => false

/-- Equality of stores with their numbers and order, given one of nested queries. -/
def beqBy (r : Q → R → Bool) (s : Store Q) (s' : Store R) : Bool :=
  beqEntriesBy r s.entries s'.entries && s.nextId == s'.nextId

end Store

end SqlSelect
