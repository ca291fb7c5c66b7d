import SqlSelect.Proofs.Calls
import SqlSelect.Proofs.CompoundRows
import SqlSelect.Proofs.Refinement

/-!
# Set operations without parentheses

Under a dialect that writes set operations without parentheses, a query over tables combined by set
operations becomes a text that reads as the sequence of its tables: the tree loses its parentheses.
The text therefore has the rows of the query when every operation absorbs those of its operand, and
otherwise, unless a table is repeated, there are tables for which it has not.
-/

namespace SqlSelect

open Sql

/-! ## The tree of a query -/

/-- A name with a further alias. -/
def Sql.Reference.ofTable (name : String) (alias? : Option String) : Reference where
  path := (Reference.ofName name).path
  aliases := (Reference.ofName name).aliases ++ alias?.toList.map String.toList
  path_ne_nil := (Reference.ofName name).path_ne_nil

def Source.reference? {Q : Type} : Source Q → Option Reference
  | .table name alias? => some (.ofTable name alias?)
  | .raw _ | .query .. => none

def Combine.attach (tree : Compound) : Combine Compound → Compound
  | .query operation _ operand => .combine tree operation operand
  | .raw _ => tree

/-- A table, combined in order with operands. -/
def Store.compound (s : Store Compound) : Compound :=
  (s.get Clause.combine? .union).foldl Combine.attach
    (.table (((s.getFirst? Clause.source? .from).bind Source.reference?).getD (.ofName "")))

/-- The tree of a query. -/
def Query.compound : Query → Compound :=
  Query.fold fun s _ => s.compound

/-- The query has a table and set operations with further such queries, each without ALL, and
nothing else. -/
inductive Query.IsCompound : Query → Prop
  | intro {q : Query} (name : String) (alias? : Option String)
      (operands : List (SetOperation × Query))
      (distinct : q.isDistinct = false)
      (table : q.clauses.clauses .from = [.from (.table name alias?)])
      (unions : q.clauses.clauses .union = operands.map fun x => .union (.query x.1 false x.2))
      (others : ∀ component, component ≠ .from → component ≠ .union →
        q.clauses.clauses component = [])
      (nested : ∀ x ∈ operands, IsCompound x.2) : IsCompound q

theorem Query.isCompound_fromTable (name : String) : (Query.empty.fromTable name).IsCompound := by
  refine .intro name none [] rfl rfl rfl (fun component hfrom _ => ?_) (by simp)
  cases component <;> first | rfl | exact absurd rfl hfrom

/-- Combining compound queries gives a compound query. -/
theorem Query.IsCompound.combine {q p : Query} (hq : q.IsCompound) (operation : SetOperation)
    (hp : p.IsCompound) : (q.combine operation false p).IsCompound := by
  cases hq with
  | intro name alias? operands hdistinct htable hunions hothers hnested =>
    have hclauses := fun component =>
      Store.clauses_add q.clauses .union component (.union (.query operation false p))
    refine .intro name alias? (operands ++ [(operation, p)]) hdistinct ?_ ?_
      (fun component hfrom hunion => ?_) fun x hx => ?_
    · exact (hclauses .from).trans htable
    · rw [List.map_append, ← hunions]
      exact hclauses .union
    · exact (hclauses component).trans ((if_neg hunion.symm).trans (hothers component hfrom hunion))
    · rcases List.mem_append.mp hx with hx | hx
      · exact hnested x hx
      · rw [List.mem_singleton.mp hx]
        exact hp

theorem Query.compound_eq {q : Query} {name : String} {alias? : Option String}
    {operands : List (SetOperation × Query)}
    (htable : q.clauses.clauses .from = [.from (.table name alias?)])
    (hunions : q.clauses.clauses .union = operands.map fun x => .union (.query x.1 false x.2)) :
    q.compound = operands.foldl (fun t x => .combine t x.1 x.2.compound)
      (.table (.ofTable name alias?)) := by
  have hget : (q.clauses.map Query.compound).get Clause.combine? .union =
      operands.map fun x => .query x.1 false x.2.compound := by
    rw [Store.get, Store.clauses_map, hunions]
    simp [List.filterMap_map, Function.comp_def, Clause.map, Clause.combine?, Combine.map]
  have hfirst : ((q.clauses.map Query.compound).getFirst? Clause.source? .from).bind
      Source.reference? = some (.ofTable name alias?) := by
    rw [Store.getFirst?, Store.clauses_map, htable]
    rfl
  have hfold : q.compound = (q.clauses.map Query.compound).compound := Query.fold_eq _ q
  rw [hfold, Store.compound, hget, hfirst, List.foldl_map]
  rfl

/-! ## Sequences of selects -/

namespace Sql

def operationWord : SetOperation → Keyword
  | .union => .union
  | .intersect => .intersect
  | .except => .except

def operation? : Keyword → Option SetOperation
  | .union => some .union
  | .intersect => some .intersect
  | .except => some .except
  | _ => none

section Reading

variable (quote : Char)

/-- Reads `SELECT * FROM name`. -/
def takeSelect : List Token → Option (Reference × List Token)
  | .keyword .select :: .star :: .keyword .from :: ts => takeReference quote ts
  | _ => none

/-- Reads a set operation with the select after it. -/
def takeCombine : List Token → Option ((SetOperation × Reference) × List Token)
  | .keyword word :: ts => do
    let operation ← operation? word
    let (name, rest) ← takeSelect quote ts
    return ((operation, name), rest)
  | _ => none

/-- Reads selects with set operations between them. -/
def readSequence (text : String) : Option Sequence :=
  (takeSelect quote (tokens text)).bind fun (first, ts) =>
    (readAll (takeCombine quote) ts).map fun rest => ⟨first, rest⟩

def selectTokens (name : Reference) : List Token :=
  .keyword .select :: .star :: .keyword .from :: name.tokens quote

def combineTokens (x : SetOperation × Reference) : List Token :=
  .keyword (operationWord x.1) :: selectTokens quote x.2

end Reading

end Sql

def Sequence.tokens (quote : Char) (s : Sequence) : List Token :=
  selectTokens quote s.first ++ s.rest.flatMap (combineTokens quote)

namespace Sql

variable {quote : Char}

theorem operation_operationWord (operation : SetOperation) :
    operation? (operationWord operation) = some operation := by
  cases operation <;> rfl

theorem takeSelect_tokens (name : Reference) {rest : List Token} (hrest : Stops rest) :
    takeSelect quote (selectTokens quote name ++ rest) = some (name, rest) :=
  takeReference_tokens quote name hrest

theorem stops_combines (xs : List (SetOperation × Reference)) :
    Stops (xs.flatMap (combineTokens quote)) := by
  cases xs with
  | nil => simp [Stops]
  | cons x xs =>
    obtain ⟨operation, name⟩ := x
    cases operation <;> simp [Stops, combineTokens, operationWord]

theorem groups_combines (xs : List (SetOperation × Reference)) :
    Groups (takeCombine quote) (xs.flatMap (combineTokens quote)) xs := by
  induction xs with
  | nil => exact Groups.nil
  | cons x xs ih =>
    have hfirst : Groups (takeCombine quote) (combineTokens quote x) [x] :=
      Groups.single (by simp [combineTokens]) fun rest hrest => by
        simp [combineTokens, takeCombine, operation_operationWord, takeSelect_tokens x.2 hrest]
    exact hfirst.append ih (stops_combines xs)

/-- A sequence is read back from its tokens. -/
theorem readSequence_of_spells {text : String} {s : Sequence} (h : Spells text (s.tokens quote)) :
    readSequence quote text = some s := by
  rw [readSequence, h.tokens_eq, Sequence.tokens, takeSelect_tokens _ (stops_combines s.rest)]
  simp [(groups_combines s.rest).readAll_eq]

end Sql

theorem Compound.tokens_sequence_table (quote : Char) (name : Reference) :
    (Compound.table name).sequence.tokens quote = selectTokens quote name := by
  simp [Compound.sequence, Sequence.tokens, Compound.first, Compound.rest]

/-- Combining a tree with an operand appends the operand's sequence to its own. -/
theorem Compound.tokens_sequence_combine (quote : Char) (t : Compound) (operation : SetOperation)
    (operand : Compound) :
    (Compound.combine t operation operand).sequence.tokens quote =
      t.sequence.tokens quote ++
        .keyword (operationWord operation) :: operand.sequence.tokens quote := by
  simp [Compound.sequence, Sequence.tokens, Compound.first, Compound.rest, combineTokens]

theorem Compound.tokens_sequence_foldl (quote : Char) (t : Compound)
    (operands : List (SetOperation × Query)) :
    (operands.foldl (fun t x => Compound.combine t x.1 x.2.compound) t).sequence.tokens quote =
      t.sequence.tokens quote ++ (operands.map fun x =>
        .keyword (operationWord x.1) :: x.2.compound.sequence.tokens quote).flatten := by
  induction operands generalizing t with
  | nil => simp
  | cons x operands ih => simp [ih, Compound.tokens_sequence_combine]

/-! ## Components -/

/-- A component that is left out has no tokens. -/
def Sql.SpellsFragment : Option String → List Token → Prop
  | some text, ts => Spells text ts
  | none, ts => ts = []

/-- The tokens of a statement are those of its components. -/
theorem Sql.spells_joinFragments {fragments : List (Option String)} {tss : List (List Token)}
    (h : List.Forall₂ SpellsFragment fragments tss) :
    Spells (joinFragments fragments) tss.flatten := by
  have hkept : ∃ uss, List.Forall₂ Spells
      (((fragments.filterMap id).map Text.trim).filter (!·.isEmpty)) uss ∧
        uss.flatten = tss.flatten := by
    induction h with
    | nil => exact ⟨[], List.Forall₂.nil, rfl⟩
    | @cons fragment ts fragments tss hfragment _ ih =>
      obtain ⟨uss, huss, hflatten⟩ := ih
      cases fragment with
      | none =>
        refine ⟨uss, huss, ?_⟩
        rw [List.flatten_cons, hflatten, show ts = [] from hfragment, List.nil_append]
      | some text =>
        have htrim := Spells.trim hfragment
        cases hempty : (Text.trim text).isEmpty with
        | true =>
          refine ⟨uss, by simpa [hempty] using huss, ?_⟩
          rw [String.isEmpty_iff.mp hempty] at htrim
          rw [List.flatten_cons, hflatten, htrim.eq_nil, List.nil_append]
        | false =>
          refine ⟨ts :: uss, ?_, by rw [List.flatten_cons, List.flatten_cons, hflatten]⟩
          simpa [hempty] using List.Forall₂.cons htrim huss
  obtain ⟨uss, huss, hflatten⟩ := hkept
  rw [← hflatten]
  exact spells_intercalate huss

theorem Sql.spells_nonEmpty {text : String} {ts : List Token} (h : Spells text ts) :
    SpellsFragment (nonEmpty? text) ts := by
  unfold nonEmpty?
  split
  · rename_i hempty
    rw [String.isEmpty_iff.mp hempty] at h
    exact h.eq_nil
  · exact h

/-! ## Written selects -/

namespace Compiler

theorem payloads_of_nil {α : Type} {s : Store SubSelect} {component : Component}
    (h : s.clauses component = []) (payload? : Clause SubSelect → Option α) :
    payloads s payload? component = pure [] := by
  rw [payloads, Store.getStrict, h]
  rfl

/-- Clauses that all have a payload of the right kind. -/
theorem payloads_of_map {α β : Type} {s : Store SubSelect} {component : Component} {xs : List β}
    {f : β → Clause SubSelect} {g : β → α} {payload? : Clause SubSelect → Option α}
    (h : s.clauses component = xs.map f) (hkind : ∀ x, (f x).kind = component)
    (hpayload : ∀ x, payload? (f x) = some (g x)) :
    payloads s payload? component = pure (xs.map g) := by
  have hall : (xs.map f).mapM (Store.strictPayload payload? component) = .ok (xs.map g) := by
    clear h
    induction xs with
    | nil => rfl
    | cons x xs ih =>
      rw [List.map_cons, List.mapM_cons, ih, Store.strictPayload, hpayload]
      simp [hkind]
      rfl
  rw [payloads, Store.getStrict, h, hall]
  rfl

theorem firstPayload_of_nil {α : Type} {s : Store SubSelect} {component : Component}
    (h : s.clauses component = []) (payload? : Clause SubSelect → Option α) :
    firstPayload? s payload? component = pure none := by
  rw [firstPayload?, payloads_of_nil h]
  rfl

end Compiler

section Written

variable {c : Compiler} {quote : Char} (hd : c.dialect.quote? = some quote)
  (hq : Placeholder.isQuote quote = true) (hbare : c.dialect.combines = .bare)
  {s : Store SubSelect}

include hd hq in
theorem spells_table (name : String) (alias? : Option String) :
    Returns (c.writeSource (.table name alias?))
      (Spells · ((Reference.ofTable name alias?).tokens quote)) := by
  have hname : Spells (c.dialect.wrap name) ((Reference.ofName name).tokens quote) := by
    rw [Dialect.wrap, hd]
    exact spells_wrap hq name
  cases alias? with
  | none => exact Returns.pure (by simpa [Reference.tokens, Reference.ofTable] using hname)
  | some label =>
    have has : Ends " AS " [.keyword .as] := by decide
    have hlabel := spells_wrapChars hq label.toList
    have hspells := (hname.append_ends has (by decide)).append_spells hlabel
    refine Returns.pure ?_
    simpa [Reference.tokens, Reference.ofTable, Dialect.wrapSegment, Identifier.wrapSegment, hd]
      using hspells

theorem spells_combine (operation : SetOperation) {sub : SubSelect} {ts : List Token}
    (h : Returns sub.write (Spells · ts)) :
    Returns (Compiler.writeCombine false (.query operation false sub))
      (Spells · (.keyword (operationWord operation) :: ts)) := by
  refine Returns.map (h.mono fun text htext => ?_)
  have hword : Ends (operation.keyword ++ "" ++ " ") [.keyword (operationWord operation)] := by
    cases operation <;> decide
  exact hword.append_spells htext

/-- A store with a table and operands and nothing else. -/
structure Store.Combined (s : Store SubSelect) (name : String) (alias? : Option String)
    (operands : List (SetOperation × SubSelect)) : Prop where
  table : s.clauses .from = [.from (.table name alias?)]
  unions : s.clauses .union = operands.map fun x => .union (.query x.1 false x.2)
  others : ∀ component, component ≠ .from → component ≠ .union → s.clauses component = []

namespace Store.Combined

variable {name : String} {alias? : Option String} {operands : List (SetOperation × SubSelect)}
  (h : s.Combined name alias? operands)
include h

theorem returns_projection :
    Returns (c.writeProjection s false) (SpellsFragment · [.keyword .select, .star]) := by
  have haggregate := (Store.has_eq_false_iff s .aggregate).mpr (h.others _ (by decide) (by decide))
  have hcolumns := h.others .select (by decide) (by decide)
  have hselect : Spells "SELECT *" [.keyword .select, .star] := by decide
  simp only [Compiler.writeProjection, haggregate, Compiler.payloads_of_nil hcolumns]
  exact Returns.pure hselect

include hd hq in
theorem returns_from :
    Returns (c.writeFrom s)
      (SpellsFragment · (.keyword .from :: (Reference.ofTable name alias?).tokens quote)) := by
  have htable : s.clauses .from = [Source.table name alias?].map .from := h.table
  have hsource : Compiler.payloads s Clause.source? .from = pure [.table name alias?] :=
    Compiler.payloads_of_map (g := id) htable (fun _ => rfl) fun _ => rfl
  have hfrom : Ends "FROM " [.keyword .from] := by decide
  simp only [Compiler.writeFrom, Compiler.firstPayload?, hsource, pure_bind, List.head?_cons]
  refine Returns.map ((spells_table hd hq name alias?).mono fun text htext => ?_)
  have hspells := hfrom.append_spells htext
  rw [List.singleton_append] at hspells
  exact hspells

include hbare in
theorem returns_setOperations {tss : List (List Token)}
    (htss : List.Forall₂ (fun x ts => Returns (Compiler.writeCombine false x) (Spells · ts))
      (operands.map fun x => .query x.1 false x.2) tss) :
    Returns (c.writeSetOperations s) (SpellsFragment · tss.flatten) := by
  have hcombines : Compiler.payloads s Clause.combine? .union =
      pure (operands.map fun x => .query x.1 false x.2) :=
    Compiler.payloads_of_map h.unions (fun _ => rfl) fun _ => rfl
  simp only [Compiler.writeSetOperations, hbare, Compiler.writeCombines, hcombines]
  refine Returns.map ((Returns.mapM htss).mono fun texts htexts => ?_)
  exact spells_nonEmpty (spells_intercalate htexts)

/-- The components without clauses are left out. -/
theorem fragments_eq :
    c.fragments s false =
      [pure none, c.writeProjection s false, c.writeFrom s, pure none, pure none, pure none,
        pure none, pure none, pure none, pure none, c.writeSetOperations s, pure none] := by
  have hwhere : s.has .where = false := by
    rw [Store.has_eq_false_iff, h.others _ (by decide) (by decide)]
  simp [Compiler.fragments, Compiler.writeAggregate, Compiler.writeJoins, Compiler.writeWhere,
    Compiler.writeGroups, Compiler.writeHavings, Compiler.writeTerms, Term.join,
    Compiler.writeOrders, Compiler.writeLimit, Compiler.writeOffset, Compiler.writeNumber,
    Compiler.writeLock, nonEmpty?, Compiler.payloads_of_nil, Compiler.firstPayload_of_nil,
    h.others, hwhere]

include hd hq hbare in
theorem returns_select {tss : List (List Token)}
    (htss : List.Forall₂ (fun x ts => Returns (Compiler.writeCombine false x) (Spells · ts))
      (operands.map fun x => .query x.1 false x.2) tss) :
    Returns (c.writeSelect s false)
      (Spells · (selectTokens quote (.ofTable name alias?) ++ tss.flatten)) := by
  have hnone : Returns (pure none : CompileM (Option String)) (SpellsFragment · []) :=
    Returns.pure rfl
  have hall : List.Forall₂ (fun m ts => Returns (id m) (SpellsFragment · ts)) (c.fragments s false)
      [[], [.keyword .select, .star],
        .keyword .from :: (Reference.ofTable name alias?).tokens quote, [], [], [], [], [], [], [],
        tss.flatten, []] := by
    rw [h.fragments_eq]
    exact .cons hnone <| .cons h.returns_projection <| .cons (h.returns_from hd hq) <|
      .cons hnone <| .cons hnone <| .cons hnone <| .cons hnone <| .cons hnone <| .cons hnone <|
      .cons hnone <| .cons (h.returns_setOperations hbare htss) <| .cons hnone .nil
  refine Returns.map ((Returns.mapM hall).mono fun fragments hfragments => ?_)
  have hspells := spells_joinFragments hfragments
  simpa [selectTokens] using hspells

end Store.Combined

/-- Without deep joins there is nothing to expand. -/
theorem Compiler.expand_of_nil {Q : Type} {s : Store Q} (h : s.clauses .deepJoin = []) :
    c.expand s = ⟨s, [], none⟩ := by
  have hjoins : s.deepJoins = .ok [] := by
    rw [Store.deepJoins, List.map_eq_nil_iff.mp h]
    rfl
  rw [Compiler.expand, Expander.expand, hjoins]
  split <;> rfl

theorem Query.IsCompound.expand_eq {q : Query} (h : q.IsCompound) :
    c.expand q.clauses = ⟨q.clauses, [], none⟩ := by
  cases h with
  | intro _ _ _ _ _ _ hothers => exact Compiler.expand_of_nil (hothers _ (by decide) (by decide))

include hd hq hbare

/-- A compound query is written as the sequence of its tree. -/
theorem Query.IsCompound.returns_select {q : Query} (h : q.IsCompound) :
    Returns (c.select q) (Spells · (q.compound.sequence.tokens quote)) := by
  induction h with
  | @intro q name alias? operands hdistinct htable hunions hothers hnested ih =>
    have hcombined : (q.clauses.map c.prepare).Combined name alias?
        (operands.map fun x => (x.1, c.prepare x.2)) := by
      refine ⟨?_, ?_, fun component hfrom hunion => ?_⟩
      · rw [Store.clauses_map, htable]
        rfl
      · rw [Store.clauses_map, hunions, List.map_map, List.map_map]
        rfl
      · rw [Store.clauses_map, hothers component hfrom hunion]
        rfl
    have hoperand : ∀ x ∈ operands, Returns (Compiler.writeCombine false
        (.query x.1 false (c.prepare x.2)))
        (Spells · (.keyword (operationWord x.1) :: x.2.compound.sequence.tokens quote)) := by
      intro x hx
      refine spells_combine x.1 ?_
      rw [← Compiler.subselect, Compiler.subselect_eq, (hnested x hx).expand_eq]
      exact Returns.bind (Returns.record []) fun _ _ => ih x hx
    have hoperands : List.Forall₂
        (fun x ts => Returns (Compiler.writeCombine false x) (Spells · ts))
        ((operands.map fun x => (x.1, c.prepare x.2)).map fun x => .query x.1 false x.2)
        (operands.map fun x =>
          .keyword (operationWord x.1) :: x.2.compound.sequence.tokens quote) := by
      rw [List.map_map, List.forall₂_map_left_iff, List.forall₂_map_right_iff, List.forall₂_same]
      exact hoperand
    have hselect := hcombined.returns_select hd hq hbare hoperands
    rw [Query.compound_eq htable hunions, Compound.tokens_sequence_foldl,
      Compound.tokens_sequence_table, Compiler.select, hdistinct]
    exact hselect

end Written

/-- The text of a compound query under SQLite's rules for set operations. It always compiles and
reads as the sequence of its tables, so its rows, found from left to right, are those of the query
if every operation absorbs the operations of its operand; and if no table is repeated, they are so
for all tables only then. -/
theorem compound_select_rows {c : Compiler} (hd : c.dialect = .sqlite) {q : Query}
    (h : q.IsCompound) :
    ∃ r, (c.compile q).outcome = .ok r ∧
      readSequence '\x22' r.sql = some q.compound.sequence ∧
      (q.compound.Absorbing → ∀ (α : Type) (tables : List (List Char) → Set α),
        q.compound.sequence.rows tables = q.compound.rows tables) ∧
      (q.compound.paths.Nodup → ∀ (α : Type) [Nonempty α],
        (∀ tables : List (List Char) → Set α,
          q.compound.sequence.rows tables = q.compound.rows tables) → q.compound.Absorbing) := by
  have hreturns : Returns (c.select q) (Spells · (q.compound.sequence.tokens '\x22')) :=
    h.returns_select (by rw [hd]; rfl) (by decide) (by rw [hd]; rfl)
  obtain ⟨text, hrun, hspells⟩ := hreturns.result
  obtain ⟨ctx, hselect⟩ := hrun {}
  refine ⟨⟨text, ctx.bindings⟩, ?_, readSequence_of_spells hspells, ?_, ?_⟩
  · have hexpanded : c.select ⟨q.clauses, q.isDistinct⟩ {} = .ok text ctx := hselect
    rw [Compiler.outcome_compile, h.expand_eq]
    simp only [hexpanded, hd]
    rfl
  · exact fun habsorbing α tables => habsorbing.rows_eq tables
  · exact fun hnodup α _ heq => Compound.absorbing_of_rows_eq hnodup heq

/-- A query over three tables, combined by two operations, the second one in the operand. -/
def Query.sampleCompound (first second : SetOperation) : Query :=
  (Query.empty.fromTable "a").combine first false
    ((Query.empty.fromTable "b").combine second false (Query.empty.fromTable "c"))

theorem Query.isCompound_sampleCompound (first second : SetOperation) :
    (Query.sampleCompound first second).IsCompound :=
  (Query.isCompound_fromTable "a").combine first
    ((Query.isCompound_fromTable "b").combine second (Query.isCompound_fromTable "c"))

theorem Query.compound_sampleCompound (first second : SetOperation) :
    (Query.sampleCompound first second).compound =
      .combine (.table (.ofTable "a" none)) first
        (.combine (.table (.ofTable "b" none)) second (.table (.ofTable "c" none))) :=
  rfl

theorem compound_select_rows_sample :
    (Query.sampleCompound .intersect .except).IsCompound ∧
      ∃ r s, (Compiler.compile { dialect := .sqlite }
          (Query.sampleCompound .intersect .except)).outcome = .ok r ∧
        readSequence '\x22' r.sql = some s ∧
        ∀ (α : Type) (tables : List (List Char) → Set α), s.rows tables =
          tables [['a']] ∩ (tables [['b']] \ tables [['c']]) := by
  have hcompound := Query.isCompound_sampleCompound .intersect .except
  obtain ⟨r, hr, hread, hrows, _⟩ :=
    compound_select_rows (c := { dialect := .sqlite }) rfl hcompound
  have habsorbing : (Query.sampleCompound .intersect .except).compound.Absorbing := by
    simp [Query.compound_sampleCompound, Compound.Absorbing, Compound.operations,
      SetOperation.absorbs]
  have hpaths : (Reference.ofTable "a" none).path = [['a']] ∧
      (Reference.ofTable "b" none).path = [['b']] ∧
      (Reference.ofTable "c" none).path = [['c']] := by decide +kernel
  refine ⟨hcompound, r, _, hr, hread, fun α tables => ?_⟩
  rw [hrows habsorbing α tables, Query.compound_sampleCompound]
  simp [Compound.rows, SetOperation.apply, hpaths]

/-- Without parentheses `a EXCEPT (b EXCEPT c)` loses rows. -/
theorem compound_select_except_except :
    (Query.sampleCompound .except .except).IsCompound ∧
      ∃ r s, (Compiler.compile { dialect := .sqlite }
          (Query.sampleCompound .except .except)).outcome = .ok r ∧
        readSequence '\x22' r.sql = some s ∧
        ∃ tables : List (List Char) → Set Unit, s.rows tables = ∅ ∧
          (Query.sampleCompound .except .except).compound.rows tables = Set.univ := by
  refine ⟨Query.isCompound_sampleCompound .except .except, _,
    ⟨.ofName "a", [(.except, .ofName "b"), (.except, .ofName "c")]⟩, rfl, by decide +kernel,
    fun _ => Set.univ, ?_, ?_⟩
  · simp [Sequence.rows, SetOperation.apply]
  · simp [Query.compound_sampleCompound, Compound.rows, SetOperation.apply]

end SqlSelect
