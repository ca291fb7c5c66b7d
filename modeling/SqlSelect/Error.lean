/-!
# Compile errors

Why a query cannot be compiled, and the wording of each cause. The same query always fails the same
way, and a failed compilation returns no text.
-/

namespace SqlSelect

/-- Why a query cannot be compiled. -/
inductive CompileError where
  /-- A deep join needs a root, and the query has no named source. -/
  | missingRoot (expression : String)
  /-- A component holds a clause of another kind. -/
  | invalidClause (component found : String)
  /-- A fragment has `found` placeholders and `expected` values. -/
  | placeholderMismatch (expected found : Nat)
  /-- No handler is registered for a condition's tag. -/
  | unresolvedHandler (tag : String)
  deriving DecidableEq

/-- The wording of an error. -/
def CompileError.message : CompileError → String
  | .missingRoot expression =>
    "cannot expand deep join '" ++ expression ++
      "': the query has no named FROM table or alias"
  | .invalidClause component found =>
    "invalid clause in '" ++ component ++ "' component: found " ++ found
  | .placeholderMismatch expected found =>
    "raw fragment has " ++ Nat.repr found ++ " placeholder(s) but " ++ Nat.repr expected ++
      " binding(s)"
  | .unresolvedHandler tag => "no condition compiler registered for '" ++ tag ++ "'"

end SqlSelect
