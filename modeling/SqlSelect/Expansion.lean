import SqlSelect.Event
import SqlSelect.Inflection
import SqlSelect.Query.Store

/-!
# Expanding deep joins

A deep join `author.company` on a query over `posts` becomes a join of `author` on
`posts.authorId = author.Id` and one of `company` on `author.companyId = company.Id`. The joins are
appended to the store and the deep join is dropped, so an expanded store has nothing left to expand.

Deep joins are expanded in insertion order. The first one without a root ends the work; those before
it stay expanded.
-/

namespace SqlSelect

/-- How the keys of a chain are named when a deep join does not say. -/
structure KeySettings where
  sourceKeySuffix : String := "Id"
  targetKey : String := "Id"
  deriving DecidableEq

/-- Expands deep joins by key settings and a rule for singular forms. -/
structure Expander where
  settings : KeySettings := {}
  singular : String → String := Inflection.singular

/-- What expanding a store leaves: the store, the events, and the failure that ended the work. -/
structure Expansion (Q : Type) where
  store : Store Q
  events : List Event
  failure? : Option CompileError

variable {Q : Type}

namespace Store

/-- The deep joins of a store with their numbers; a clause of another kind is an error. -/
def deepJoins (s : Store Q) : Except CompileError (List (Nat × DeepJoin)) :=
  (s.entriesOf .deepJoin).mapM fun e =>
    match e.clause.deepJoin? with
    | some d => .ok (e.id, d)
    | none => .error (.invalidClause Component.deepJoin.name e.clause.kind.name)

/-- The name of the source that a chain starts from. -/
def rootName? (s : Store Q) : Option String :=
  (s.getFirst? Clause.source? .from).bind Source.name?

/-- Appends the joins of a chain. -/
def addChain (s : Store Q) (kind : JoinKind) (links : List Link) : Store Q :=
  links.foldl (fun s link => s.add .join (.join (link.toJoin kind))) s

end Store

namespace Expander

/-- The key names of a step to `target`, source side first. A generator for the target side counts
only beside one for the source side, and then the name given for the target key does not. -/
def keys (x : Expander) (d : DeepJoin) (target : String) : String × String :=
  match d.sourceKey? with
  | some sourceKey =>
    (sourceKey.generate target, (d.targetKey?.map (·.generate target)).getD x.settings.targetKey)
  | none =>
    (x.singular target ++ d.sourceKeySuffix?.getD x.settings.sourceKeySuffix,
      d.targetKeyName?.getD x.settings.targetKey)

/-- The links from `source` through the given targets. -/
def links (x : Expander) (d : DeepJoin) (source : String) : List String → List Link
  | [] => []
  | target :: targets =>
    ⟨source, target, (x.keys d target).1, (x.keys d target).2⟩ :: x.links d target targets

/-- The chain of a deep join. A path without segments needs no root. -/
def chain (x : Expander) (s : Store Q) (d : DeepJoin) : Except CompileError (List Link) :=
  if d.segments.isEmpty then .ok []
  else match s.rootName? with
    | some root => .ok (x.links d root d.segments)
    | none => .error (.missingRoot d.expression)

/-- The events of one expanded deep join. -/
def chainEvents (d : DeepJoin) (links : List Link) : List Event :=
  links.map .segment ++ [.expanded d.expression links.length]

/-- Expands the given deep joins one after the other. -/
def expandEach (x : Expander) (s : Store Q) : List (Nat × DeepJoin) → Expansion Q
  | [] => ⟨s, [], none⟩
  | (id, d) :: rest =>
    match x.chain s d with
    | .error e => ⟨s, [], some e⟩
    | .ok links =>
      let later := x.expandEach ((s.addChain d.kind links).erase id) rest
      ⟨later.store, chainEvents d links ++ later.events, later.failure?⟩

/-- Expands every deep join of a store. -/
def expand (x : Expander) (s : Store Q) : Expansion Q :=
  match s.deepJoins with
  | .error e => ⟨s, [], some e⟩
  | .ok triggers => x.expandEach s triggers

end Expander

end SqlSelect
