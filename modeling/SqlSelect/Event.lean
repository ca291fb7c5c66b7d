import SqlSelect.Query.Join

/-!
# Events

What a compilation reports while it runs. An event has a level, a message and named fields, all of
them texts.
-/

namespace SqlSelect

inductive Event where
  /-- Compilation of a query starts. -/
  | compiling (dialect : String)
  /-- One step of a deep join has been resolved. -/
  | segment (link : Link)
  /-- A deep join has been replaced by joins. -/
  | expanded (expression : String) (joins : Nat)
  /-- Compilation of a query has succeeded. -/
  | compiled (sql : String) (bindings : Nat)
  deriving DecidableEq

namespace Event

def level : Event → String
  | .segment _ => "TRACE"
  | _ => "DEBUG"

def message : Event → String
  | .compiling _ => "compiling query"
  | .segment _ => "deep join segment"
  | .expanded _ _ => "expanded deep join"
  | .compiled _ _ => "compiled query"

/-- The named fields of an event. -/
def fields : Event → List (String × String)
  | .compiling dialect => [("dialect", dialect)]
  | .segment link =>
    [("source", link.source), ("target", link.target), ("source_key", link.sourceKey),
      ("target_key", link.targetKey)]
  | .expanded expression joins => [("expression", expression), ("joins", Nat.repr joins)]
  | .compiled sql bindings => [("sql", sql), ("bindings", Nat.repr bindings)]

end Event

end SqlSelect
