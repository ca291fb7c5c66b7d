import SqlSelect.Placeholder
import SqlSelect.Value.Literal
import SqlSelect.Value.Json

/-!
# Statements

Compiled text together with the values of its placeholders.
-/

namespace SqlSelect

/-- Statement text and the values of its placeholders in order. -/
structure Statement where
  sql : String
  bindings : Array Value

/-- The value a placeholder stands for. Numbers count from one, so zero stands for nothing. -/
def Placeholder.value? (bindings : Array Value) : Placeholder → Option Value
  | .positional 0 | .numbered 0 => none
  | .positional (n + 1) | .numbered (n + 1) => bindings[n]?

/-- The text with the literal of its value in place of every placeholder that has one. -/
def Statement.inline (s : Statement) : String :=
  Placeholder.replace (fun p => (p.value? s.bindings).map Value.literal) s.sql

/-- The JSON text of a statement. -/
def Statement.toJson (s : Statement) : String :=
  "\x7b\"sql\":" ++ Json.quote s.sql ++ ",\"bindings\":[" ++
    String.intercalate "," (s.bindings.toList.map Value.toJson) ++ "]\x7d"

end SqlSelect
