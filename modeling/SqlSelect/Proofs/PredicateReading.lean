import SqlSelect.Compiler.Condition
import SqlSelect.Proofs.References
import Mathlib.Data.List.Forall2
import Mathlib.Logic.Function.Iterate

/-!
# Predicates read back

The text of a condition is read in three steps: its tokens, then the elementary predicates among
them, then the expression they form. The second step takes `BETWEEN ? AND ?` as one predicate, so
that every AND left over is a connective. The third is a machine over connectives, parentheses and
predicates: NOT binds tighter than AND, AND tighter than OR, and parentheses group. The empty text
has no expression.

A text that is put together from parts reads as the expression put together from theirs. `Renders`
says that a text reads as an operand of any connective, `RendersList` that it reads as terms to
which a further one can be joined.
-/

namespace SqlSelect.Sql

/-- What a predicate is about. -/
inductive Operand where
  | column (name : Reference)
  | lowered (name : Reference)
  | placeholder
  | number (n : Nat)
  deriving DecidableEq

/-- A predicate without connectives. -/
inductive Elementary where
  | compare (left : Operand) (operator : String) (right : Operand)
  | like (operand : Operand)
  | isNull (operand : Operand)
  | between (operand : Operand)
  | oneOf (operand : Operand) (choices : Nat)
  deriving DecidableEq

/-- A Boolean expression. -/
inductive Expr where
  | atom (p : Elementary)
  | const (value : Bool)
  | not (e : Expr)
  | and (a b : Expr)
  | or (a b : Expr)
  deriving DecidableEq

namespace Expr

/-- The elementary predicates in order of appearance. -/
def predicates : Expr → List Elementary
  | atom p => [p]
  | const _ => []
  | not e => e.predicates
  | and a b | or a b => a.predicates ++ b.predicates

/-- The value, given the truth of the elementary predicates in order of appearance. -/
def value (e : Expr) (ρ : Nat → Bool) : Bool :=
  match e with
  | atom _ => ρ 0
  | const value => value
  | not e => !e.value ρ
  | and a b => a.value ρ && b.value fun k => ρ (a.predicates.length + k)
  | or a b => a.value ρ || b.value fun k => ρ (a.predicates.length + k)

/-- An expression or its negation. -/
def signed (negated : Bool) (e : Expr) : Expr :=
  if negated then .not e else e

end Expr

/-! ## Elementary predicates -/

/-- The operators that compare. -/
def comparisons : List String :=
  ["=", "<>", "!=", "<", "<=", ">", ">="]

/-- Two numbers are compared at once. -/
def comparison? (left : Operand) (signs : List Char) (right : Operand) : Option Expr :=
  match left, signs, right with
  | .number m, ['='], .number n => some (.const (m == n))
  | left, signs, right =>
    if String.ofList signs ∈ comparisons then
      some (.atom (.compare left (String.ofList signs) right))
    else none

def number? (letters : List Char) : Option Nat :=
  if letters.all Char.isDigit then some (letters.foldl (fun n c => 10 * n + (c.toNat - 48)) 0)
  else none

/-- Reads placeholders up to the end of a list. -/
def takeMarks : List Token → Option (Nat × List Token)
  | .mark :: .closeParen :: ts => some (1, ts)
  | .mark :: .comma :: ts => (takeMarks ts).map fun (n, rest) => (n + 1, rest)
  | _ => none

/-- Reads the tests before which NOT may stand. -/
def takeTest (operand : Operand) : List Token → Option (Elementary × List Token)
  | .keyword .between :: .mark :: .keyword .and :: .mark :: ts => some (.between operand, ts)
  | .keyword .in :: .openParen :: ts =>
    (takeMarks ts).map fun (n, rest) => (.oneOf operand n, rest)
  | .keyword .like :: .mark :: ts => some (.like operand, ts)
  | _ => none

section Reading

variable (quote : Char)

def takeOperand : List Token → Option (Operand × List Token)
  | .mark :: ts => some (.placeholder, ts)
  | .word letters :: ts => (number? letters).map fun n => (.number n, ts)
  | .keyword .lower :: .openParen :: ts =>
    match takeReference quote ts with
    | some (name, .closeParen :: rest) => some (.lowered name, rest)
    | _ => none
  | ts => (takeReference quote ts).map fun (name, rest) => (.column name, rest)

/-- Reads what follows the operand of a predicate. -/
def takeRelation (left : Operand) : List Token → Option (Expr × List Token)
  | .operator signs :: ts => do
    let (right, rest) ← takeOperand quote ts
    let e ← comparison? left signs right
    return (e, rest)
  | .keyword .is :: .keyword .null :: ts => some (.atom (.isNull left), ts)
  | .keyword .is :: .keyword .not :: .keyword .null :: ts => some (.not (.atom (.isNull left)), ts)
  | .keyword .not :: ts => (takeTest left ts).map fun (p, rest) => (.not (.atom p), rest)
  | ts => (takeTest left ts).map fun (p, rest) => (.atom p, rest)

/-- Reads a predicate. -/
def takePredicate (ts : List Token) : Option (Expr × List Token) :=
  (takeOperand quote ts).bind fun (left, rest) => takeRelation quote left rest

/-! ## Symbols -/

/-- What a Boolean expression is written with. -/
inductive Symbol where
  | and
  | or
  | not
  | openParen
  | closeParen
  | operand (e : Expr)
  deriving DecidableEq

def Symbol.ofToken? : Token → Option Symbol
  | .keyword .and => some .and
  | .keyword .or => some .or
  | .keyword .not => some .not
  | .openParen => some .openParen
  | .closeParen => some .closeParen
  | _ => none

def takeSymbol (ts : List Token) : Option (Symbol × List Token) :=
  match ts.head?.bind Symbol.ofToken? with
  | some s => some (s, ts.tail)
  | none => (takePredicate quote ts).map fun (e, rest) => (.operand e, rest)

end Reading

/-! ## Expressions -/

/-- What stands before an operand: the terms before the last OR, those after it, and the negations
of the operand itself. -/
structure Pending where
  disjunction? : Option Expr := none
  conjunction? : Option Expr := none
  negations : Nat := 0

/-- Terms up to the end of an operand. -/
structure Filled where
  disjunction? : Option Expr
  conjunction : Expr

def Filled.expr (f : Filled) : Expr :=
  f.disjunction?.elim f.conjunction fun d => .or d f.conjunction

def Pending.fill (p : Pending) (e : Expr) : Filled where
  disjunction? := p.disjunction?
  conjunction :=
    p.conjunction?.elim (Expr.not^[p.negations] e) fun c => .and c (Expr.not^[p.negations] e)

/-- The place in an expression up to which it has been read. -/
inductive Position where
  | expecting (p : Pending)
  | filled (f : Filled)

/-- The place within the innermost parentheses, and what stands before each of them. -/
structure Reader where
  position : Position := .expecting {}
  outer : List Pending := []

def Reader.step : Reader → Symbol → Option Reader
  | ⟨.expecting p, outer⟩, .not =>
    some ⟨.expecting { p with negations := p.negations + 1 }, outer⟩
  | ⟨.expecting p, outer⟩, .openParen => some ⟨.expecting {}, p :: outer⟩
  | ⟨.expecting p, outer⟩, .operand e => some ⟨.filled (p.fill e), outer⟩
  | ⟨.filled f, outer⟩, .and =>
    some ⟨.expecting { disjunction? := f.disjunction?, conjunction? := f.conjunction }, outer⟩
  | ⟨.filled f, outer⟩, .or => some ⟨.expecting { disjunction? := f.expr }, outer⟩
  | ⟨.filled f, p :: outer⟩, .closeParen => some ⟨.filled (p.fill f.expr), outer⟩
  | _, _ => none

def Reader.run (r : Reader) (ss : List Symbol) : Option Reader :=
  ss.foldlM step r

/-- The expression at the end of the text, outside all parentheses. -/
def Reader.expr? : Reader → Option Expr
  | ⟨.filled f, []⟩ => some f.expr
  | _ => none

/-- The expression of a list of symbols, if there are any. -/
def expression? (ss : List Symbol) : Option (Option Expr) :=
  if ss = [] then some none else (Reader.run {} ss).bind fun r => r.expr?.map some

/-- Reads a condition. The outer `none` is for a text that is no condition. -/
def read? (quote : Char) (text : String) : Option (Option Expr) :=
  (readAll (takeSymbol quote) (tokens text)).bind expression?

-- NOT binds tighter than AND, and AND tighter than OR
example :
    read? '\x22' "NOT \x22a\x22 IS NULL AND \x22b\x22 NOT BETWEEN ? AND ? OR 1 = 0" =
      some (some (.or
        (.and (.not (.atom (.isNull (.column (.ofName "a")))))
          (.not (.atom (.between (.column (.ofName "b"))))))
        (.const false))) := by
  decide +kernel

-- a connective in quotes is part of a name, and a name alone is no predicate
example :
    read? '\x22' "(\x22a\x22\x22 OR b\x22 = ? OR \x22c\x22 IN (?, ?)) AND \x22d\x22" = none ∧
      read? '\x22' "\x22a\x22\x22 OR b\x22 = ?" =
        some (some (.atom (.compare (.column (.ofName "a\x22 OR b")) "=" .placeholder))) := by
  decide +kernel

/-! ## Symbols put together -/

/-- Joins a term to those before it. -/
def Filled.extend (f : Filled) : Bool × Expr → Filled
  | (true, e) => ⟨f.expr, e⟩
  | (false, e) => ⟨f.disjunction?, .and f.conjunction e⟩

/-- Terms joined from the left. -/
def Filled.ofTerms? : List (Bool × Expr) → Option Filled
  | [] => none
  | (_, e) :: ts => some (ts.foldl Filled.extend ⟨none, e⟩)

/-- The symbols are an operand: they fill any place where one is expected. -/
def Builds (ss : List Symbol) (e : Expr) : Prop :=
  ∀ p outer, Reader.run ⟨.expecting p, outer⟩ ss = some ⟨.filled (p.fill e), outer⟩

/-- The symbols are terms at the beginning of an expression. -/
def Fills (ss : List Symbol) (f : Filled) : Prop :=
  ∀ outer, Reader.run ⟨.expecting {}, outer⟩ ss = some ⟨.filled f, outer⟩

def Symbol.connective (byOr : Bool) : Symbol :=
  if byOr then .or else .and

theorem Reader.run_cons (r : Reader) (s : Symbol) (ss : List Symbol) :
    r.run (s :: ss) = (r.step s).bind (·.run ss) :=
  List.foldlM_cons

theorem Reader.run_append (r : Reader) (xs ys : List Symbol) :
    r.run (xs ++ ys) = (r.run xs).bind (·.run ys) :=
  List.foldlM_append

theorem Builds.operand (e : Expr) : Builds [.operand e] e :=
  fun _ _ => rfl

theorem Builds.not {ss : List Symbol} {e : Expr} (h : Builds ss e) :
    Builds (.not :: ss) (.not e) := by
  intro p outer
  rw [Reader.run_cons]
  exact h _ outer

theorem Builds.fills {ss : List Symbol} {e : Expr} (h : Builds ss e) : Fills ss ⟨none, e⟩ :=
  fun outer => h {} outer

theorem Fills.parens {ss : List Symbol} {f : Filled} (h : Fills ss f) :
    Builds (.openParen :: (ss ++ [.closeParen])) f.expr := by
  intro p outer
  rw [Reader.run_cons, Reader.step, Option.bind_some, Reader.run_append, h]
  rfl

theorem Fills.extend {xs ys : List Symbol} {f : Filled} {e : Expr} (hx : Fills xs f)
    (hy : Builds ys e) (byOr : Bool) :
    Fills (xs ++ .connective byOr :: ys) (f.extend (byOr, e)) := by
  intro outer
  rw [Reader.run_append, hx, Option.bind_some, Reader.run_cons]
  cases byOr <;> exact hy _ outer

theorem Fills.expression {ss : List Symbol} {f : Filled} (h : Fills ss f) :
    expression? ss = some (some f.expr) := by
  have hne : ss ≠ [] := by
    rintro rfl
    cases h []
  rw [expression?, if_neg hne, h]
  rfl

/-! ## Texts put together -/

section Text

variable {quote : Char}

theorem Groups.cons {t : Token} {s : Symbol} (ht : Symbol.ofToken? t = some s)
    {ts : List Token} {ss : List Symbol} (h : Groups (takeSymbol quote) ts ss) :
    Groups (takeSymbol quote) (t :: ts) (s :: ss) := by
  intro rest hrest
  have htake : takeSymbol quote (t :: ts ++ rest) = some (s, ts ++ rest) := by
    simp [takeSymbol, ht]
  rw [readAll_eq_cons htake (by simp), h rest hrest, Option.map_map]
  rfl

/-- The text is read as these symbols, and there are some. -/
def Reads (quote : Char) (text : String) (ss : List Symbol) : Prop :=
  ∃ ts, ts ≠ [] ∧ Spells text ts ∧ Groups (takeSymbol quote) ts ss

theorem Reads.ne_empty {text : String} {ss : List Symbol} (h : Reads quote text ss) :
    text ≠ "" := by
  obtain ⟨ts, hne, hspells, _⟩ := h
  rintro rfl
  exact hne hspells.tokens_eq.symm

theorem Reads.symbols_eq {text : String} {ss : List Symbol} (h : Reads quote text ss) :
    readAll (takeSymbol quote) (tokens text) = some ss := by
  obtain ⟨ts, _, hspells, hgroups⟩ := h
  rw [hspells.tokens_eq, hgroups.readAll_eq]

theorem Reads.not {text : String} {ss : List Symbol} (h : Reads quote text ss) :
    Reads quote ("NOT " ++ text) (.not :: ss) := by
  obtain ⟨ts, _, hspells, hgroups⟩ := h
  have hnot : Ends "NOT " [.keyword .not] := by decide
  exact ⟨_, List.cons_ne_nil _ _, hnot.append_spells hspells, hgroups.cons rfl⟩

theorem Reads.parens {text : String} {ss : List Symbol} (h : Reads quote text ss) :
    Reads quote ("(" ++ text ++ ")") (.openParen :: (ss ++ [.closeParen])) := by
  obtain ⟨ts, _, hspells, hgroups⟩ := h
  have hopen : Ends "(" [.openParen] := by decide
  have hclose : Spells ")" [.closeParen] := by decide
  have hend : Groups (takeSymbol quote) [.closeParen] [.closeParen] := Groups.nil.cons rfl
  refine ⟨.openParen :: (ts ++ [.closeParen]), List.cons_ne_nil _ _, ?_,
    (hgroups.append hend (by simp [Stops])).cons rfl⟩
  exact (hopen.append_spells hspells).append hclose (by decide)

theorem connective_token (byOr : Bool) :
    ∃ t, Ends (if byOr then " OR " else " AND ") [t] ∧
      Separates (if byOr then " OR " else " AND ") ∧
      Symbol.ofToken? t = some (.connective byOr) ∧ Stops [t] := by
  cases byOr with
  | false => exact ⟨.keyword .and, by decide, by decide, rfl, by simp [Stops]⟩
  | true => exact ⟨.keyword .or, by decide, by decide, rfl, by simp [Stops]⟩

theorem Reads.connect {a b : String} {xs ys : List Symbol} (ha : Reads quote a xs)
    (hb : Reads quote b ys) (byOr : Bool) :
    Reads quote (a ++ ((if byOr then " OR " else " AND ") ++ b))
      (xs ++ .connective byOr :: ys) := by
  obtain ⟨ts, _, hspells, hgroups⟩ := ha
  obtain ⟨us, _, hspells', hgroups'⟩ := hb
  obtain ⟨t, hends, hseparates, hsymbol, hstops⟩ := connective_token byOr
  refine ⟨ts ++ t :: us, by simp, ?_, hgroups.append (hgroups'.cons hsymbol) hstops⟩
  exact hspells.append (hends.append_spells hspells') (hseparates.append b)

/-- The text reads as an expression that can be the operand of any connective. -/
def Renders (quote : Char) (text : String) (e : Expr) : Prop :=
  ∃ ss, Reads quote text ss ∧ Builds ss e

/-- The text reads as terms to which another can be joined. -/
def RendersList (quote : Char) (text : String) (f : Filled) : Prop :=
  ∃ ss, Reads quote text ss ∧ Fills ss f

theorem Renders.ne_empty {text : String} {e : Expr} (h : Renders quote text e) : text ≠ "" := by
  obtain ⟨_, hreads, _⟩ := h
  exact hreads.ne_empty

theorem Renders.not {text : String} {e : Expr} (h : Renders quote text e) :
    Renders quote ("NOT " ++ text) (.not e) := by
  obtain ⟨ss, hreads, hbuilds⟩ := h
  exact ⟨_, hreads.not, hbuilds.not⟩

theorem Renders.list {text : String} {e : Expr} (h : Renders quote text e) :
    RendersList quote text ⟨none, e⟩ := by
  obtain ⟨ss, hreads, hbuilds⟩ := h
  exact ⟨ss, hreads, hbuilds.fills⟩

theorem RendersList.parens {text : String} {f : Filled} (h : RendersList quote text f) :
    Renders quote ("(" ++ text ++ ")") f.expr := by
  obtain ⟨ss, hreads, hfills⟩ := h
  exact ⟨_, hreads.parens, hfills.parens⟩

theorem RendersList.extend {a b : String} {f : Filled} {e : Expr} (ha : RendersList quote a f)
    (hb : Renders quote b e) (byOr : Bool) :
    RendersList quote (a ++ ((if byOr then " OR " else " AND ") ++ b)) (f.extend (byOr, e)) := by
  obtain ⟨xs, hreads, hfills⟩ := ha
  obtain ⟨ys, hreads', hbuilds⟩ := hb
  exact ⟨_, hreads.connect hreads' byOr, hfills.extend hbuilds byOr⟩

theorem RendersList.read {text : String} {f : Filled} (h : RendersList quote text f) :
    read? quote text = some (some f.expr) := by
  obtain ⟨ss, hreads, hfills⟩ := h
  rw [read?, hreads.symbols_eq, Option.bind_some, hfills.expression]

theorem read_empty : read? quote "" = some none := by
  have htokens : tokens "" = [] := rfl
  rw [read?, htokens, readAll_nil]
  rfl

/-- A text whose tokens are one predicate. -/
theorem renders_predicate {text : String} {ts : List Token} {e : Expr} (hne : ts ≠ [])
    (hspells : Spells text ts)
    (h : ∀ rest, Stops rest → takeSymbol quote (ts ++ rest) = some (.operand e, rest)) :
    Renders quote text e :=
  ⟨_, ⟨ts, hne, hspells, Groups.single hne h⟩, Builds.operand e⟩

end Text

/-! ## The texts of predicates -/

/-- The tokens of a list of placeholders after the parenthesis before it. -/
def marks : Nat → List Token
  | 0 => [.mark, .closeParen]
  | n + 1 => .mark :: .comma :: marks n

section Text

variable {quote : Char}

/-- The text reads as an operand of a predicate. -/
def RendersOperand (quote : Char) (text : String) (o : Operand) : Prop :=
  ∃ t ts, Spells text (t :: ts) ∧ Symbol.ofToken? t = none ∧
    ∀ rest, Stops rest → takeOperand quote (t :: ts ++ rest) = some (o, rest)

theorem rendersOperand_mark : RendersOperand quote "?" .placeholder :=
  ⟨.mark, [], by decide, rfl, fun _ _ => rfl⟩

section Names

variable (hq : Placeholder.isQuote quote = true)
include hq

theorem rendersOperand_wrap (name : String) :
    RendersOperand quote (Identifier.wrap (some quote) name) (.column (.ofName name)) := by
  have hspells := spells_wrap hq name
  have hread : ∀ rest, Stops rest → takeReference quote _ = _ := fun _ =>
    takeReference_tokens quote (.ofName name)
  obtain ⟨segment, ts, hts⟩ := (Reference.ofName name).tokens_eq_cons quote
  rw [hts] at hspells hread
  refine ⟨_, ts, hspells, ?_, fun rest hrest => ?_⟩
  · unfold segmentToken
    split <;> rfl
  · have htake := hread rest hrest
    unfold segmentToken at htake ⊢
    split at htake <;> simp_all [takeOperand]

theorem rendersOperand_lower (name : String) :
    RendersOperand quote ("LOWER(" ++ Identifier.wrap (some quote) name ++ ")")
      (.lowered (.ofName name)) := by
  have hlower : Ends "LOWER(" [.keyword .lower, .openParen] := by decide
  have hclose : Spells ")" [.closeParen] := by decide
  have hspells := (hlower.append_spells (spells_wrap hq name)).append hclose (by decide)
  refine ⟨_, _, hspells, rfl, fun rest hrest => ?_⟩
  have hstops : Stops (.closeParen :: rest) := by simp [Stops]
  simp [takeOperand, takeReference_tokens quote (.ofName name) hstops]

end Names

theorem stops_of_takeTest {o : Operand} {ts rest : List Token} {p : Elementary}
    (h : takeTest o ts = some (p, rest)) : Stops ts := by
  unfold takeTest at h
  split at h <;> simp_all [Stops]

theorem takeRelation_of_takeTest {o : Operand} {ts rest : List Token} {p : Elementary}
    (h : takeTest o ts = some (p, rest)) : takeRelation quote o ts = some (.atom p, rest) := by
  unfold takeRelation
  split
  · cases h
  · cases h
  · cases h
  · cases h
  · rw [h]
    rfl

theorem takeMarks_marks (n : Nat) (rest : List Token) :
    takeMarks (marks n ++ rest) = some (n + 1, rest) := by
  induction n with
  | zero => rfl
  | succ n ih => simp [marks, takeMarks, ih]

theorem spells_marks (n : Nat) :
    Spells (String.intercalate ", " (List.replicate (n + 1) "?") ++ ")") (marks n) := by
  induction n with
  | zero => decide
  | succ n ih =>
    have hmark : Ends ("?" ++ ", ") [.mark, .comma] := by decide
    have hspells : Spells _ (marks (n + 1)) := hmark.append_spells ih
    rw [List.replicate_succ, String.intercalate_cons_of_ne_nil (by simp)]
    simpa only [String.append_assoc] using hspells

namespace RendersOperand

variable {a b : String} {o : Operand} (ha : RendersOperand quote a o)
include ha

/-- An operand before a text that completes a predicate. -/
theorem relation {us : List Token} {e : Expr} (hb : Spells b us) (hseparates : Separates b)
    (hstops : Stops us)
    (h : ∀ rest, Stops rest → takeRelation quote o (us ++ rest) = some (e, rest)) :
    Renders quote (a ++ b) e := by
  obtain ⟨t, ts, hts, hsymbol, htake⟩ := ha
  refine renders_predicate (by simp) (hts.append hb hseparates) fun rest hrest => ?_
  rw [List.append_assoc, takeSymbol, List.cons_append, List.head?_cons, Option.bind_some, hsymbol,
    takePredicate, ← List.cons_append, htake _ (hstops.append hrest)]
  simp [h rest hrest]

theorem compare {right : Operand} (hb : RendersOperand quote b right) {operator : String}
    (h : operator ∈ comparisons) (hne : ∀ n, o ≠ .number n) :
    Renders quote (a ++ " " ++ operator ++ " " ++ b) (.atom (.compare o operator right)) := by
  have hoperator : Ends (" " ++ operator ++ " ") [.operator operator.toList] ∧
      Separates (" " ++ operator ++ " ") := by
    simp only [comparisons, List.mem_cons, List.not_mem_nil, or_false] at h
    rcases h with rfl | rfl | rfl | rfl | rfl | rfl | rfl <;> decide
  have hcomparison : comparison? o operator.toList right =
      some (.atom (.compare o operator right)) := by
    cases o with
    | number n => exact absurd rfl (hne n)
    | column | lowered | placeholder => simp [comparison?, h]
  obtain ⟨u, us, hus, _, htake⟩ := hb
  have hrelation := ha.relation (e := .atom (.compare o operator right))
    (hoperator.1.append_spells hus) (hoperator.2.append b) (by simp [Stops]) fun rest hrest => by
      have hright := htake rest hrest
      simp_all [takeRelation]
  simpa only [String.append_assoc] using hrelation

theorem isNull (negated : Bool) :
    Renders quote (a ++ " IS " ++ notWord negated ++ "NULL")
      (.signed negated (.atom (.isNull o))) := by
  have hplain : Spells (" IS " ++ (notWord false ++ "NULL")) [.keyword .is, .keyword .null] := by
    decide
  have hnot : Spells (" IS " ++ (notWord true ++ "NULL"))
      [.keyword .is, .keyword .not, .keyword .null] := by decide
  rw [String.append_assoc, String.append_assoc]
  cases negated with
  | false => exact ha.relation hplain (by decide) (by simp [Stops]) fun _ _ => rfl
  | true => exact ha.relation hnot (by decide) (by simp [Stops]) fun _ _ => rfl

/-- A test before which NOT may stand. -/
theorem test {us : List Token} {p : Elementary} (hb : Spells b us)
    (h : ∀ rest, takeTest o (us ++ rest) = some (p, rest)) (negated : Bool) :
    Renders quote (a ++ " " ++ notWord negated ++ b) (.signed negated (.atom p)) := by
  have hblank : Ends " " [] := by decide
  have hnot : Ends "NOT " [.keyword .not] := by decide
  rw [String.append_assoc, String.append_assoc]
  cases negated with
  | false =>
    have hspells : Spells (" " ++ (notWord false ++ b)) us :=
      hblank.append_spells (by simpa [notWord])
    refine ha.relation hspells (Separates.append (by decide) _) ?_ fun rest _ => ?_
    · have hus := h []
      rw [List.append_nil] at hus
      exact stops_of_takeTest hus
    · exact takeRelation_of_takeTest (h rest)
  | true =>
    have hspells := hblank.append_spells (hnot.append_spells hb)
    refine ha.relation hspells (Separates.append (by decide) _) (by simp [Stops]) fun rest _ => ?_
    simp [takeRelation, h, Expr.signed]

theorem like : Renders quote (a ++ " LIKE " ++ "?") (.atom (.like o)) := by
  have hlike : Spells (" LIKE " ++ "?") [.keyword .like, .mark] := by decide
  rw [String.append_assoc]
  exact ha.relation hlike (by decide) (by simp [Stops]) fun _ _ => rfl

theorem between (negated : Bool) :
    Renders quote (a ++ " " ++ notWord negated ++ "BETWEEN " ++ "?" ++ " AND " ++ "?")
      (.signed negated (.atom (.between o))) := by
  have hwords : Spells ("BETWEEN " ++ "?" ++ " AND " ++ "?")
      [.keyword .between, .mark, .keyword .and, .mark] := by decide
  have htest := ha.test hwords (fun _ => rfl) negated
  simpa only [String.append_assoc] using htest

theorem oneOf (n : Nat) (negated : Bool) :
    Renders quote (a ++ " " ++ notWord negated ++ "IN (" ++
        String.intercalate ", " (List.replicate (n + 1) "?") ++ ")")
      (.signed negated (.atom (.oneOf o (n + 1)))) := by
  have hin : Ends "IN (" [.keyword .in, .openParen] := by decide
  have htest := ha.test (p := .oneOf o (n + 1)) (hin.append_spells (spells_marks n))
    (fun rest => by simp [takeTest, takeMarks_marks]) negated
  simpa only [String.append_assoc] using htest

end RendersOperand

/-- The text of a list without values. -/
theorem renders_const (negated : Bool) :
    Renders quote (if negated then "1 = 1" else "1 = 0") (.const negated) := by
  have htrue : Spells "1 = 1" [.word ['1'], .operator ['='], .word ['1']] := by decide
  have hfalse : Spells "1 = 0" [.word ['1'], .operator ['='], .word ['0']] := by decide
  cases negated with
  | false => exact renders_predicate (by simp) hfalse fun _ _ => rfl
  | true => exact renders_predicate (by simp) htrue fun _ _ => rfl

theorem Renders.negate {text : String} {e : Expr} (h : Renders quote text e) (negated : Bool) :
    Renders quote (negate negated text) (.signed negated e) := by
  cases negated with
  | false => exact h
  | true =>
    have hwords : "NOT (" = "NOT " ++ "(" := by decide
    have hnot : Renders quote ("NOT " ++ ("(" ++ text ++ ")")) (.signed true e) :=
      h.list.parens.not
    rw [SqlSelect.negate, if_pos rfl, hwords]
    simpa only [String.append_assoc] using hnot

theorem RendersList.ne_empty {text : String} {f : Filled} (h : RendersList quote text f) :
    text ≠ "" := by
  obtain ⟨_, hreads, _⟩ := h
  exact hreads.ne_empty

theorem RendersList.group {text : String} {f : Filled} (h : RendersList quote text f)
    (negated : Bool) :
    Renders quote (notWord negated ++ "(" ++ text ++ ")") (.signed negated f.expr) := by
  cases negated with
  | false => exact h.parens
  | true =>
    have hnot : Renders quote (notWord true ++ ("(" ++ text ++ ")")) (.signed true f.expr) :=
      h.parens.not
    simpa only [String.append_assoc] using hnot

/-- A term beside the expression as which it is read. -/
def RendersTerm (quote : Char) (t : Term) (e : Bool × Expr) : Prop :=
  t.byOr = e.1 ∧ Renders quote t.sql e.2

theorem RendersList.join {text : String} {f : Filled} (h : RendersList quote text f)
    {ts : List Term} {es : List (Bool × Expr)} (hts : List.Forall₂ (RendersTerm quote) ts es) :
    RendersList quote (text ++ String.join (ts.map fun t => t.connective ++ t.sql))
      (es.foldl Filled.extend f) := by
  induction hts generalizing text f with
  | nil => simpa using h
  | @cons t e ts es hte _ ih =>
    obtain ⟨byOr, e⟩ := e
    obtain ⟨rfl, hsql⟩ := hte
    rw [List.map_cons, String.join_cons, ← String.append_assoc]
    exact ih (h.extend hsql t.byOr)

/-- Joined terms read as the terms joined from the left, and are empty without any. -/
theorem renders_join {ts : List Term} {es : List (Bool × Expr)}
    (h : List.Forall₂ (RendersTerm quote) ts es) :
    (Term.join ts = "" ∧ Filled.ofTerms? es = none) ∨
      ∃ f, Filled.ofTerms? es = some f ∧ RendersList quote (Term.join ts) f := by
  cases h with
  | nil => exact Or.inl ⟨rfl, rfl⟩
  | cons hte hts => exact Or.inr ⟨_, rfl, hte.2.list.join hts⟩

end Text

end SqlSelect.Sql
