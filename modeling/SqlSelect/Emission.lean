import SqlSelect.Error
import SqlSelect.Event
import SqlSelect.Placeholder
import SqlSelect.Query.Source

/-!
# Emitting text and values

Text is written while values are bound: an action of `CompileM` returns text or fails, and in either
case leaves the values it has bound and the events it has recorded in the context.
-/

namespace SqlSelect

/-- What a compilation has collected so far. -/
structure Context where
  bindings : Array Value := #[]
  events : Array Event := #[]

/-- A step of a compilation. A failure keeps what was collected before it. -/
abbrev CompileM := EStateM CompileError Context

namespace CompileM

/-- Binds a value and gives its placeholder. -/
def bindValue (value : Value) : CompileM String :=
  fun ctx => .ok "?" { ctx with bindings := ctx.bindings.push value }

/-- Binds values in order. -/
def bindValues (values : List Value) : CompileM Unit :=
  fun ctx => .ok () { ctx with bindings := ctx.bindings ++ values }

/-- Records events in order. -/
def record (events : List Event) : CompileM Unit :=
  fun ctx => .ok () { ctx with events := ctx.events ++ events }

def ofExcept {α : Type} : Except CompileError α → CompileM α
  | .ok a => pure a
  | .error e => throw e

/-- Copies a fragment and binds its values. A fragment whose placeholders do not match its values is
an error and binds nothing. -/
def fragment (f : Fragment) : CompileM String := do
  if Placeholder.count f.sql = f.bindings.length then
    bindValues f.bindings
    return f.sql
  else
    throw (.placeholderMismatch f.bindings.length (Placeholder.count f.sql))

end CompileM

end SqlSelect
