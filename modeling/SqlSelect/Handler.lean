import SqlSelect.Dialect
import SqlSelect.Emission
import SqlSelect.Query.Basic

/-!
# Condition handlers

The handler of a condition is found by the condition's tag. The library has one for every form of
predicate; others can be registered, also in place of those. A handler of the library refuses a
predicate of another form.
-/

namespace SqlSelect

/-- A nested query as the enclosing one sees it, with the action that writes its text. -/
structure SubSelect where
  query : Query
  write : CompileM String

/-- Writes one condition: either the library's rule for a form of predicate, or a function of the
dialect and the condition, whose nested queries it can read and write. -/
inductive Handler where
  | standard (form : PredicateForm)
  | custom (write : Dialect → Condition SubSelect → CompileM String)

/-- Handlers by tag. Each tag occurs once. -/
structure Registry where
  handlers : List (String × Handler)

namespace Registry

def empty : Registry := ⟨[]⟩

/-- The library's handlers, each under the tag of its form. -/
def standard : Registry :=
  ⟨PredicateForm.all.map fun form => (form.tag, .standard form)⟩

def find? (r : Registry) (tag : String) : Option Handler :=
  r.handlers.lookup tag

def contains (r : Registry) (tag : String) : Bool :=
  (r.find? tag).isSome

/-- Registers a handler in place of any other with this tag. -/
def register (r : Registry) (tag : String) (handler : Handler) : Registry :=
  ⟨(tag, handler) :: r.handlers.filter (·.1 != tag)⟩

/-- The handler for a tag. -/
def resolve (r : Registry) (tag : String) : Except CompileError Handler :=
  match r.find? tag with
  | some handler => .ok handler
  | none => .error (.unresolvedHandler tag)

/-- The tags in the order of their characters. -/
def tags (r : Registry) : List String :=
  (r.handlers.map (·.1)).mergeSort fun a b => !decide (b < a)

end Registry

end SqlSelect
