import SqlSelect.Proofs.Contracts
import SqlSelect.Proofs.Repetition

/-!
# The log of a compilation

Expanding a deep join logs one event for each name along its path and then one that counts them.
Such a block is logged as a whole or not at all, wherever a compilation fails. So the log of a
compilation is a sequence of blocks between an event that opens it and, on success, one that closes
it. The blocks of the query's own deep joins come first.
-/

namespace SqlSelect

variable {Q : Type}

/-- The events of one expanded deep join. The links lead from name to name along its path. -/
structure Event.Block where
  expression : String
  links : List Link
  targets_eq : links.map Link.target = DeepJoin.segments { expression }
  connected : links.IsChain fun link next => next.source = link.target

/-- One event for each link, then one with the number of names along the path. -/
def Event.Block.events (b : Event.Block) : List Event :=
  b.links.map .segment ++
    [.expanded b.expression (DeepJoin.segments { expression := b.expression }).length]

/-! ## Expansion -/

namespace Expander

variable (x : Expander) (d : DeepJoin)

theorem targets_links (source : String) (targets : List String) :
    (x.links d source targets).map Link.target = targets := by
  induction targets generalizing source with
  | nil => rfl
  | cons target targets ih => rw [links, List.map_cons, ih]

theorem connected_links (source : String) (targets : List String) :
    (x.links d source targets).IsChain fun link next => next.source = link.target := by
  induction targets generalizing source with
  | nil => exact .nil
  | cons target targets ih =>
    cases targets with
    | nil => exact .singleton _
    | cons next rest => exact .cons_cons rfl (ih target)

/-- The block of a deep join on a query over `root`. -/
def block (root : String) : Event.Block where
  expression := d.expression
  links := x.links d root d.segments
  targets_eq := x.targets_links d root d.segments
  connected := x.connected_links d root d.segments

theorem chainEvents_links (root : String) :
    chainEvents d (x.links d root d.segments) = (x.block d root).events := by
  rw [chainEvents, length_links]
  rfl

/-- Each deep join logs its block before the next one is looked at. -/
theorem events_expandEach (s : Store Q) (triggers : List (Nat × DeepJoin)) :
    ∃ blocks : List Event.Block,
      (x.expandEach s triggers).events = blocks.flatMap Event.Block.events ∧
      blocks.map (·.expression) <+: triggers.map (·.2.expression) ∧
      ((x.expandEach s triggers).failure? = none →
        blocks.map (·.expression) = triggers.map (·.2.expression)) := by
  induction triggers generalizing s with
  | nil => exact ⟨[], rfl, List.nil_prefix, fun _ => rfl⟩
  | cons t ts ih =>
    obtain ⟨id, d⟩ := t
    rw [expandEach]
    obtain ⟨hchain, _⟩ | ⟨hchain, _⟩ := x.chain_cases s d
    · rw [hchain]
      obtain ⟨blocks, hevents, hprefix, hall⟩ :=
        ih ((s.addChain d.kind (x.links d (s.rootName?.getD "") d.segments)).erase id)
      refine ⟨x.block d (s.rootName?.getD "") :: blocks, ?_, ?_, fun hnone => ?_⟩
      · rw [List.flatMap_cons, ← chainEvents_links, ← hevents]
      · exact (List.prefix_cons_inj d.expression).mpr hprefix
      · exact congrArg (d.expression :: ·) (hall hnone)
    · rw [hchain]
      exact ⟨[], rfl, List.nil_prefix, fun hnone => absurd hnone (Option.some_ne_none _)⟩

end Expander

/-- The paths of a store's deep joins. -/
def Store.paths (s : Store Q) : List String :=
  (s.get Clause.deepJoin? .deepJoin).map (·.expression)

theorem Store.paths_of_deepJoins {s : Store Q} {triggers : List (Nat × DeepJoin)}
    (h : s.deepJoins = .ok triggers) : s.paths = triggers.map (·.2.expression) := by
  have hget := s.deepJoins_eq_getStrict
  rw [h] at hget
  rw [paths, ← get_of_getStrict hget.symm, List.map_map]
  rfl

/-- A store logs whole blocks of its deep joins in order, and all of them if expansion succeeds. -/
theorem Compiler.events_expand (c : Compiler) (s : Store Q) :
    ∃ blocks : List Event.Block, (c.expand s).events = blocks.flatMap Event.Block.events ∧
      blocks.map (·.expression) <+: s.paths ∧
      (c.dialect.expandsDeepJoins = true → (c.expand s).failure? = none →
        blocks.map (·.expression) = s.paths) := by
  unfold Compiler.expand Expander.expand
  split
  · split
    · exact ⟨[], rfl, List.nil_prefix, fun _ hnone => absurd hnone (Option.some_ne_none _)⟩
    · rename_i triggers htriggers
      rw [Store.paths_of_deepJoins htriggers]
      obtain ⟨blocks, hevents, hprefix, hall⟩ := c.expander.events_expandEach s triggers
      exact ⟨blocks, hevents, hprefix, fun _ => hall⟩
  · rename_i hexpands
    exact ⟨[], rfl, List.nil_prefix, fun h => absurd h hexpands⟩

/-! ## Whole compilations -/

/-- Nothing is logged but whole blocks. -/
def Contract.logsBlocks : Contract where
  step ctx ctx' := ∃ blocks : List Event.Block,
    ctx'.events = ctx.events ++ blocks.flatMap Event.Block.events
  refl ctx := ⟨[], (append_nil_list ctx.events).symm⟩
  trans := by
    rintro ctx mid ctx' ⟨first, hfirst⟩ ⟨second, hsecond⟩
    refine ⟨first ++ second, ?_⟩
    rw [hsecond, hfirst, append_assoc_list, List.flatMap_append]
  bind ctx _ := ⟨[], (append_nil_list ctx.events).symm⟩

/-- The library's own handlers log nothing. -/
theorem Contract.serves_standard {K : Contract} {c : Compiler} (hr : c.registry = .standard)
    (tag : String) : K.Serves c tag := by
  rw [Contract.Serves]
  cases hfind : c.registry.find? tag with
  | none => trivial
  | some handler =>
    rw [hr] at hfind
    obtain ⟨form, rfl⟩ := Registry.eq_standard_of_find hfind
    trivial

/-- The log of a compilation, whether it succeeds or fails: an event that opens it, whole blocks,
and an event with the statement's text and number of values exactly if there is one. The first
blocks are those of the query's own deep joins in order. All of them are there, or else the
compilation has failed and logged no other block. Registered functions may log whole blocks only, as
the nested queries that they write do. -/
theorem event_log_structured {c : Compiler} (hd : c.dialect ∈ Dialect.builtin) (q : Query)
    (hserved : ∀ tag ∈ q.tags, Contract.logsBlocks.Serves c tag) :
    ∃ own nested : List Event.Block,
      (c.compile q).events =
        .compiling c.dialect.name :: (own ++ nested).flatMap Event.Block.events ++
          (match (c.compile q).outcome with
            | .ok statement => [.compiled statement.sql statement.bindings.size]
            | .error _ => []) ∧
      own.map (·.expression) <+: q.clauses.paths ∧
      (own.map (·.expression) = q.clauses.paths ∨
        nested = [] ∧ ∃ e, (c.compile q).outcome = .error e) := by
  obtain ⟨own, hown, hprefix, hall⟩ := c.events_expand q.clauses
  have hexpand : ∀ (s : Store Query) (ctx : Context),
      Contract.logsBlocks.step ctx { ctx with events := ctx.events ++ (c.expand s).events } := by
    intro s ctx
    obtain ⟨blocks, hblocks, _⟩ := c.events_expand s
    exact ⟨blocks, by rw [hblocks]⟩
  have hselect := Contract.obeys_select hexpand hserved {}
  simp only [Compiler.compile]
  cases hfailure : (c.expand q.clauses).failure? with
  | some e =>
    refine ⟨own, [], ?_, hprefix, Or.inr ⟨rfl, e, rfl⟩⟩
    rw [hown, List.append_nil, List.append_nil]
  | none =>
    have hpaths := hall (Dialect.expandsDeepJoins_of_builtin hd) hfailure
    cases hrun : c.select ⟨(c.expand q.clauses).store, q.isDistinct⟩ {} with
    | error e ctx =>
      rw [hrun] at hselect
      obtain ⟨nested, hnested⟩ := hselect
      refine ⟨own, nested, ?_, hprefix, Or.inl hpaths⟩
      simp [hown, hnested]
    | ok text ctx =>
      rw [hrun] at hselect
      obtain ⟨nested, hnested⟩ := hselect
      refine ⟨own, nested, ?_, hprefix, Or.inl hpaths⟩
      simp [hown, hnested]

/-- A path with blanks and an empty name, and in a nested query one that can be expanded beside one
in a query without a source. -/
def Query.logged : Query :=
  let rootless := Query.empty.deepJoin "tags"
  let nested := ((Query.empty.fromTable "u").deepJoin "city").whereCondition
    (.ofPredicate (.existsQuery rootless))
  ((Query.empty.fromTable "posts").deepJoin " author ..company").whereCondition
    (.ofPredicate (.inQuery "id" nested))

/-- The compilation fails two queries down, after the blocks above have been logged. -/
theorem event_log_structured_sample :
    let c : Compiler := { dialect := .postgres }
    c.dialect ∈ Dialect.builtin ∧
    (∀ tag ∈ Query.logged.tags, Contract.logsBlocks.Serves c tag) ∧
    (c.compile Query.logged).outcome.map Statement.sql = .error (.missingRoot "tags") ∧
    (c.compile Query.logged).events =
      [.compiling "postgres", .segment ⟨"posts", "author", "authorId", "Id"⟩,
        .segment ⟨"author", "company", "companyId", "Id"⟩, .expanded " author ..company" 2,
        .segment ⟨"u", "city", "cityId", "Id"⟩, .expanded "city" 1] ∧
    ∃ own nested : List Event.Block,
      (c.compile Query.logged).events =
        .compiling c.dialect.name :: (own ++ nested).flatMap Event.Block.events ++
          (match (c.compile Query.logged).outcome with
            | .ok statement => [.compiled statement.sql statement.bindings.size]
            | .error _ => []) ∧
      own.map (·.expression) <+: Query.logged.clauses.paths ∧
      (own.map (·.expression) = Query.logged.clauses.paths ∨
        nested = [] ∧ ∃ e, (c.compile Query.logged).outcome = .error e) := by
  intro c
  have hd : c.dialect ∈ Dialect.builtin := by simp [c, Dialect.builtin]
  have hserved : ∀ tag ∈ Query.logged.tags, Contract.logsBlocks.Serves c tag :=
    fun tag _ => Contract.serves_standard rfl tag
  exact ⟨hd, hserved, by decide +kernel, by decide +kernel, event_log_structured hd _ hserved⟩

end SqlSelect
