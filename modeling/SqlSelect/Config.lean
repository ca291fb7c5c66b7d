import SqlSelect.Compiler.Basic
import SqlSelect.Json.Reader

/-!
# Configuration

A configuration document is a JSON object in which every field may be missing. Fields that are not
known are skipped; a known field that occurs twice is refused. A record may also be written as the
array of its fields in order, and may then end early.
-/

namespace SqlSelect

/-- The dialects that a configuration can name. -/
inductive DialectChoice where
  | generic
  | postgres
  | mysql
  deriving DecidableEq

namespace DialectChoice

def name : DialectChoice → String
  | .generic => "generic"
  | .postgres => "postgres"
  | .mysql => "mysql"

def ofName? (name : String) : Option DialectChoice :=
  [generic, postgres, mysql].find? (·.name == name)

def dialect : DialectChoice → Dialect
  | .generic => .generic
  | .postgres => .postgres
  | .mysql => .mysql

/-- A name, or an object whose only field has the name and is null. -/
def ofJson? : Json → Option DialectChoice
  | .text (some name) => ofName? name
  | .object [(some name, .null)] => ofName? name
  | _ => none

end DialectChoice

/-- Settings of a compiler. -/
structure Config where
  dialect : DialectChoice := .generic
  deepJoin : KeySettings := {}
  deriving DecidableEq

/-- The value of one field of an object: missing, present, or refused because it occurs twice. -/
def Json.field? (fields : List (Option String × Json)) (name : String) : Option (Option Json) :=
  match fields.filter (·.1 == some name) with
  | [] => some none
  | [(_, value)] => some (some value)
  | _ => none

/-- The values of the named fields of a record, in order; none for a field that is missing. -/
def Json.record? (names : List String) : Json → Option (List (Option Json))
  | .object fields =>
    if fields.all (·.1.isSome) then names.mapM (Json.field? fields) else none
  | .array items =>
    if items.length ≤ names.length then
      some (items.map some ++ List.replicate (names.length - items.length) none)
    else none
  | _ => none

/-- A value that may be missing; one that is present must be read. -/
def Json.withDefault {α : Type} (default : α) (read? : Json → Option α) : Option Json → Option α
  | none => some default
  | some value => read? value

def Json.string? : Json → Option String
  | .text value? => value?
  | _ => none

def KeySettings.ofJson? (json : Json) : Option KeySettings :=
  match Json.record? ["source_key_suffix", "target_key"] json with
  | some [suffix, target] => do
    let defaults : KeySettings := {}
    return ⟨← Json.withDefault defaults.sourceKeySuffix Json.string? suffix,
      ← Json.withDefault defaults.targetKey Json.string? target⟩
  | _ => none

namespace Config

def ofJson? (json : Json) : Option Config :=
  match Json.record? ["dialect", "deep_join"] json with
  | some [dialect, deepJoin] => do
    return ⟨← Json.withDefault .generic DialectChoice.ofJson? dialect,
      ← Json.withDefault {} KeySettings.ofJson? deepJoin⟩
  | _ => none

/-- Reads a configuration document. -/
def read? (document : String) : Option Config :=
  (Json.read? document).bind ofJson?

/-- The document of a configuration. -/
def toJson (config : Config) : String :=
  "\x7b\"dialect\":" ++ Json.quote config.dialect.name ++
    ",\"deep_join\":\x7b\"source_key_suffix\":" ++ Json.quote config.deepJoin.sourceKeySuffix ++
    ",\"target_key\":" ++ Json.quote config.deepJoin.targetKey ++ "\x7d\x7d"

/-- The compiler with these settings. -/
def compiler (config : Config) : Compiler where
  dialect := config.dialect.dialect
  expander := { settings := config.deepJoin }

end Config

end SqlSelect
