import SqlSelect.Proofs.Draft
import SqlSelect.Proofs.Posting
import SqlSelect.Proofs.Trimming

/-!
# Statements with places for nested queries

A template is a statement in which every nested query is left as a place. It is made from a query by
the same assembly as the statement and knows nothing of the nested queries but where they stand.
Filling a template puts in each place the text that the nested query has by itself, and in the list
of values, at the same point, the values it binds by itself.
-/

namespace SqlSelect

variable {Q γ : Type}

/-- What a query gives by itself: its text and its values. -/
abbrev Alone (Q : Type) := Q → Except CompileError (String × List Value)

/-- A piece of the statement's own, or the place of a nested query. -/
inductive Part (Q : Type) where
  | own (piece : Piece)
  | nested (query : Q)

/-- A statement with places for nested queries. -/
abbrev Template (Q : Type) := List (Part Q)

namespace Part

/-- A nested query is never blank. -/
def isBlank : Part Q → Bool
  | .own piece => piece.isBlank
  | .nested _ => false

def queries : Part Q → List Q
  | .own _ => []
  | .nested q => [q]

def text (alone : Alone Q) : Part Q → List Char
  | .own piece => [piece.mark]
  | .nested q =>
    match alone q with
    | .ok (text, _) => text.toList
    | .error _ => []

def values (alone : Alone Q) : Part Q → List Value
  | .own piece => piece.value?.toList
  | .nested q =>
    match alone q with
    | .ok (_, values) => values
    | .error _ => []

end Part

namespace Template

def ofDraft (d : Draft) : Template Q :=
  d.map .own

/-- The template without the blanks at either end. -/
def trim (a : Template Q) : Template Q :=
  (a.dropWhile Part.isBlank).rdropWhile Part.isBlank

/-- The nested queries in the order of their places. -/
def queries (a : Template Q) : List Q :=
  a.flatMap Part.queries

@[simp] theorem queries_append (a b : Template Q) : queries (a ++ b) = a.queries ++ b.queries :=
  List.flatMap_append

theorem queries_ofDraft (d : Draft) : (ofDraft d : Template Q).queries = [] := by
  simp [queries, ofDraft, List.flatMap_map, Part.queries]

/-- The nested queries succeed by themselves, and with what they give in their places the template
has this text and these values. -/
structure Fills (alone : Alone Q) (a : Template Q) (text : String) (values : List Value) :
    Prop where
  succeeds : ∀ q ∈ a.queries, ∃ r, alone q = .ok r
  text_eq : text.toList = a.flatMap (Part.text alone)
  values_eq : values = a.flatMap (Part.values alone)

/-! ## Trimming -/

/-- Trimming takes away nothing that a blank part does not have. -/
theorem flatMap_trim {f : Part Q → List γ} (hf : ∀ p, p.isBlank = true → f p = [])
    (a : Template Q) : a.trim.flatMap f = a.flatMap f := by
  have hblank : ∀ b : Template Q, (∀ p ∈ b, p.isBlank = true) → b.flatMap f = [] :=
    fun b hb => List.flatMap_eq_nil_iff.mpr fun p hp => hf p (hb p hp)
  have hparts : a = a.takeWhile Part.isBlank ++ (a.trim ++
      (a.dropWhile Part.isBlank).rtakeWhile Part.isBlank) := by
    rw [trim, List.rdropWhile_append_rtakeWhile, List.takeWhile_append_dropWhile]
  have hfront := hblank (a.takeWhile Part.isBlank) fun p hp => List.mem_takeWhile_imp hp
  have hback := hblank ((a.dropWhile Part.isBlank).rtakeWhile Part.isBlank)
    fun p hp => List.mem_rtakeWhile_imp hp
  conv_rhs => rw [hparts]
  rw [List.flatMap_append, List.flatMap_append, hfront, hback, List.nil_append, List.append_nil]

theorem queries_trim (a : Template Q) : a.trim.queries = a.queries := by
  refine flatMap_trim (fun p hp => ?_) a
  cases p with
  | own piece => rfl
  | nested q => cases hp

theorem flatMap_values_trim (alone : Alone Q) (a : Template Q) :
    a.trim.flatMap (Part.values alone) = a.flatMap (Part.values alone) := by
  refine flatMap_trim (fun p hp => ?_) a
  cases p with
  | nested q => cases hp
  | own piece =>
    cases piece with
    | char c => rfl
    | value v => exact absurd hp (Bool.eq_false_iff.mp (Draft.isBlank_value v))

section Solid

variable {alone : Alone Q} {a : Template Q}
  (hsolid : ∀ q text values, alone q = .ok (text, values) → Solid text.toList)
  (ha : ∀ q ∈ a.queries, ∃ r, alone q = .ok r)
include hsolid ha

/-- A part is one blank, or has something at both ends of its text. -/
theorem text_of_mem {p : Part Q} (hp : p ∈ a) :
    (p.isBlank = true → ∃ c, p.text alone = [c] ∧ Text.isBlank c = true) ∧
      (p.isBlank = false → Solid (p.text alone)) := by
  cases p with
  | own piece =>
    refine ⟨fun hblank => ⟨_, rfl, hblank⟩, fun hblank => ?_⟩
    exact ⟨⟨_, [], rfl, hblank⟩, ⟨[], _, rfl, hblank⟩⟩
  | nested q =>
    refine ⟨fun hblank => (Bool.false_ne_true hblank).elim, fun _ => ?_⟩
    obtain ⟨⟨text, values⟩, hq⟩ := ha q (List.mem_flatMap.mpr ⟨_, hp, List.mem_singleton_self q⟩)
    have htext : Part.text alone (.nested q) = text.toList := by simp only [Part.text, hq]
    rw [htext]
    exact hsolid q text values hq

theorem ne_nil_of_mem {p : Part Q} (hp : p ∈ a) : p.text alone ≠ [] := by
  have htext := text_of_mem hsolid ha hp
  cases hblank : p.isBlank with
  | true =>
    obtain ⟨c, hc, _⟩ := htext.1 hblank
    simp [hc]
  | false =>
    obtain ⟨c, rest, hc, _⟩ := (htext.2 hblank).head
    simp [hc]

theorem flatMap_text_dropWhile :
    (a.dropWhile Part.isBlank).flatMap (Part.text alone) =
      (a.flatMap (Part.text alone)).dropWhile Text.isBlank := by
  induction a with
  | nil => rfl
  | cons p a ih =>
    have htext := text_of_mem hsolid ha (p := p) List.mem_cons_self
    rw [List.flatMap_cons]
    cases hblank : p.isBlank with
    | true =>
      obtain ⟨c, hc, hcblank⟩ := htext.1 hblank
      rw [List.dropWhile_cons_of_pos hblank, hc, List.singleton_append,
        List.dropWhile_cons_of_pos hcblank]
      exact ih fun q hq => ha q (List.mem_append_right _ hq)
    | false =>
      obtain ⟨c, rest, hc, hcblank⟩ := (htext.2 hblank).head
      rw [List.dropWhile_cons_of_neg (by simp [hblank]), List.flatMap_cons, hc, List.cons_append,
        List.dropWhile_cons_of_neg (by simp [hcblank])]

theorem flatMap_text_rdropWhile :
    (a.rdropWhile Part.isBlank).flatMap (Part.text alone) =
      Text.trimRight (a.flatMap (Part.text alone)) := by
  induction a using List.reverseRecOn with
  | nil => rfl
  | append_singleton a p ih =>
    have htext := text_of_mem hsolid ha (p := p) (by simp)
    have hlast : (a ++ [p]).flatMap (Part.text alone) =
        a.flatMap (Part.text alone) ++ p.text alone := by simp
    cases hblank : p.isBlank with
    | true =>
      obtain ⟨c, hc, hcblank⟩ := htext.1 hblank
      rw [List.rdropWhile_concat_pos _ _ _ hblank, hlast, hc, Text.trimRight_concat_blank hcblank]
      refine ih fun q hq => ha q ?_
      rw [queries_append]
      exact List.mem_append_left _ hq
    | false =>
      obtain ⟨rest, c, hc, hcblank⟩ := (htext.2 hblank).last
      rw [List.rdropWhile_concat_neg _ _ _ (by simp [hblank]), hlast, hc, ← List.append_assoc,
        Text.trimRight_concat_of_not_blank hcblank]

/-- Trimming a template trims its text. -/
theorem flatMap_text_trim :
    a.trim.flatMap (Part.text alone) = Text.trimChars (a.flatMap (Part.text alone)) := by
  have hdropped : ∀ q ∈ queries (a.dropWhile Part.isBlank), ∃ r, alone q = .ok r := by
    intro q hq
    obtain ⟨p, hp, hqp⟩ := List.mem_flatMap.mp hq
    exact ha q (List.mem_flatMap.mpr ⟨p, (List.dropWhile_sublist _).subset hp, hqp⟩)
  rw [trim, flatMap_text_rdropWhile hsolid hdropped, flatMap_text_dropWhile hsolid ha,
    Text.trimChars]

end Solid

/-! ## Filling -/

namespace Fills

variable {alone : Alone Q} {a b : Template Q} {s t : String} {vs ws : List Value}

theorem ofDraft {d : Draft} (h : d.Reads s vs) : Fills alone (Template.ofDraft d) s vs := by
  refine ⟨fun q hq => ?_, ?_, ?_⟩
  · rw [queries_ofDraft] at hq
    cases hq
  · rw [h.sql_eq, Template.ofDraft, List.flatMap_map, Draft.sql, List.map_eq_flatMap]
    rfl
  · rw [h.values_eq, Template.ofDraft, List.flatMap_map, Draft.values,
      List.filterMap_eq_flatMap_toList]
    rfl

theorem nested {q : Q} (h : alone q = .ok (s, vs)) : Fills alone [.nested q] s vs := by
  refine ⟨fun q' hq' => ?_, ?_, ?_⟩
  · rw [List.mem_singleton.mp hq']
    exact ⟨_, h⟩
  · simp [Part.text, h]
  · simp [Part.values, h]

theorem append (ha : Fills alone a s vs) (hb : Fills alone b t ws) :
    Fills alone (a ++ b) (s ++ t) (vs ++ ws) := by
  refine ⟨fun q hq => ?_, ?_, ?_⟩
  · rw [queries_append] at hq
    exact (List.mem_append.mp hq).elim (ha.succeeds q) (hb.succeeds q)
  · rw [String.toList_append, List.flatMap_append, ha.text_eq, hb.text_eq]
  · rw [List.flatMap_append, ha.values_eq, hb.values_eq]

variable (hsolid : ∀ q text values, alone q = .ok (text, values) → Solid text.toList)
include hsolid

theorem trim (h : Fills alone a s vs) : Fills alone a.trim (Text.trim s) vs := by
  refine ⟨fun q hq => h.succeeds q (queries_trim a ▸ hq), ?_, ?_⟩
  · rw [Text.trim, String.toList_ofList, flatMap_text_trim hsolid h.succeeds, h.text_eq]
  · rw [flatMap_values_trim, h.values_eq]

theorem eq_empty_iff (h : Fills alone a s vs) : s = "" ↔ a = [] := by
  rw [← String.toList_eq_nil_iff, h.text_eq, List.flatMap_eq_nil_iff]
  refine ⟨fun hnil => ?_, fun ha => by simp [ha]⟩
  rw [List.eq_nil_iff_forall_not_mem]
  exact fun p hp => ne_nil_of_mem hsolid h.succeeds hp (hnil p hp)

end Fills

end Template

/-- Statements as templates. -/
def Assembly.template : Assembly (Template Q) where
  text s := .ofDraft (.ofText s)
  value v := .ofDraft [.value v]
  fragment f := .ofDraft (.ofFragment f)
  trim := Template.trim
  isEmpty := List.isEmpty

/-- Filling templates tracks the compiler, whatever texts are copied. -/
theorem tracks_fills {alone : Alone Q}
    (hsolid : ∀ q text values, alone q = .ok (text, values) → Solid text.toList) (d : Dialect) :
    Tracks d .any Assembly.template fun t vs (a : Template Q) => a.Fills alone t vs where
  text _ := .ofDraft (Draft.reads_ofText _)
  operator _ := .ofDraft (Draft.reads_ofText _)
  random _ := .ofDraft (Draft.reads_ofText _)
  value v := .ofDraft (Draft.reads_value v)
  fragment _ hcount := .ofDraft (Draft.reads_ofFragment hcount)
  append hs ht _ := hs.append ht
  trim h := h.trim hsolid
  isEmpty_eq h := by
    rw [Bool.eq_iff_iff, String.isEmpty_iff, h.eq_empty_iff hsolid]
    exact List.isEmpty_iff
  values_eq_nil h := by
    rw [h.values_eq, (h.eq_empty_iff hsolid).mp rfl]
    rfl
  operator_eq := trivial

/-! ## The nested queries that are written -/

def Source.queries : Source Q → List Q
  | .query q _ => [q]
  | .table .. | .raw _ => []

def Column.queries : Column Q → List Q
  | .query q _ => [q]
  | .name _ | .raw _ => []

def Combine.queries : Combine Q → List Q
  | .query _ _ q => [q]
  | .raw _ => []

mutual

def Predicate.queries : Predicate Q → List Q
  | .group items => Condition.queriesAll items
  | .inQuery _ q | .existsQuery q => [q]
  | .compare .. | .text .. | .compareColumns .. | .raw .. | .isNull .. | .between .. | .oneOf ..
  | .custom .. => []

def Condition.queries : Condition Q → List Q
  | ⟨_, _, p⟩ => p.queries

def Condition.queriesAll : List (Condition Q) → List Q
  | [] => []
  | c :: cs => c.queries ++ Condition.queriesAll cs

end

theorem Condition.queriesAll_eq_flatMap (cs : List (Condition Q)) :
    Condition.queriesAll cs = cs.flatMap Condition.queries := by
  induction cs with
  | nil => simp [Condition.queriesAll]
  | cons c cs ih => simp [Condition.queriesAll, ih]

def Join.queries (j : Join Q) : List Q :=
  j.table.queries ++ j.on.flatMap Condition.queries

def Clause.queries : Clause Q → List Q
  | .from s => s.queries
  | .join j => j.queries
  | .where c | .having c => c.queries
  | .group c | .select c => c.queries
  | .union c => c.queries
  | .order _ | .limit _ | .deepJoin _ | .aggregate _ | .lock _ => []

/-- The queries nested in the clauses that are written, in the order in which they are. -/
def Store.queries (unions : Bool) (s : Store Q) : List Q :=
  Component.inWritingOrder.flatMap fun component =>
    if s.writes unions component then (s.written component).flatMap Clause.queries else []

namespace Template

/-- A nested query as a template: its place and nothing else. -/
def ofQuery (q : Q) : Template Q :=
  [.nested q]

@[simp] theorem queries_ofQuery (q : Q) : (ofQuery q).queries = [q] := rfl

@[simp] theorem queries_text (s : String) :
    (Assembly.template.text s : Template Q).queries = [] :=
  queries_ofDraft _

@[simp] theorem queries_value (v : Value) :
    (Assembly.template.value v : Template Q).queries = [] :=
  queries_ofDraft _

@[simp] theorem queries_fragment (f : Fragment) :
    (Assembly.template.fragment f : Template Q).queries = [] :=
  queries_ofDraft _

theorem queries_of_isEmpty {a : Template Q} (h : Assembly.template.isEmpty a = true) :
    a.queries = [] := by
  rw [List.isEmpty_iff.mp h]
  rfl

theorem queries_join (separator : String) (as : List (Template Q)) :
    (Assembly.template.join separator as).queries = as.flatMap queries := by
  induction as with
  | nil => simp [Assembly.join]
  | cons a as ih =>
    cases as with
    | nil => simp [Assembly.join]
    | cons b as => simp [Assembly.join, ih]

theorem queries_connect (ts : List (Bool × Template Q)) :
    (Assembly.template.connect ts).queries = ts.flatMap fun t => t.2.queries := by
  induction ts with
  | nil => simp [Assembly.connect]
  | cons t ts ih => simp [Assembly.connect, ih]

theorem queries_joinTerms (ts : List (Bool × Template Q)) :
    (Assembly.template.joinTerms ts).queries = ts.flatMap fun t => t.2.queries := by
  cases ts with
  | nil => simp [Assembly.joinTerms]
  | cons t ts => simp [Assembly.joinTerms, queries_connect]

theorem queries_negate (negated : Bool) (a : Template Q) :
    (Assembly.template.negate negated a).queries = a.queries := by
  cases negated <;> simp [Assembly.negate]

variable (d : Dialect)

mutual

theorem queries_predicate (negated : Bool) : ∀ p : Predicate Q,
    (Assembly.template.predicate d negated (p.map ofQuery)).queries = p.queries
  | .compare .. | .compareColumns .. | .raw .. => by
    simp [Predicate.map, Assembly.predicate, queries_negate, Predicate.queries]
  | .text _ _ _ true | .text _ _ _ false => by
    simp [Predicate.map, Assembly.predicate, queries_negate, Predicate.queries]
  | .isNull .. | .between .. | .inQuery .. | .existsQuery .. | .custom .. => by
    simp [Predicate.map, Assembly.predicate, Predicate.queries]
  | .oneOf column values => by
    simp only [Predicate.map, Assembly.predicate, Predicate.queries]
    split <;> simp [queries_join, List.flatMap_map]
  | .group items => by
    have hinner := queries_terms items
    simp only [Predicate.map, Assembly.predicate, Predicate.queries, ← hinner]
    rw [← queries_joinTerms]
    split
    · rename_i hempty
      simp [queries_of_isEmpty hempty]
    · simp

theorem queries_terms : ∀ items : List (Condition Q),
    (Assembly.template.terms d (Condition.mapList ofQuery items)).flatMap (fun t => t.2.queries) =
      Condition.queriesAll items
  | [] => by simp [Condition.mapList, Assembly.terms, Condition.queriesAll]
  | ⟨byOr, negated, p⟩ :: items => by
    have hp := queries_predicate negated p
    have hitems := queries_terms items
    simp only [Condition.mapList, Condition.map, Assembly.terms, Condition.queriesAll,
      Condition.queries]
    split
    · rename_i hempty
      rw [← hp, queries_of_isEmpty hempty, List.nil_append, hitems]
    · rw [List.flatMap_cons, hp, hitems]

end

theorem queries_conditions (items : List (Condition Q)) :
    (Assembly.template.conditions d (items.map (Condition.map ofQuery))).queries =
      items.flatMap Condition.queries := by
  rw [Assembly.conditions, queries_joinTerms, ← Condition.mapList_eq_map, queries_terms,
    Condition.queriesAll_eq_flatMap]

theorem queries_source (x : Source Q) :
    (Assembly.template.source d (x.map ofQuery)).queries = x.queries := by
  rcases x with ⟨name, _ | label⟩ | fragment | ⟨q, _ | label⟩ <;>
    simp [Source.map, Assembly.source, Source.queries]

theorem queries_column (x : Column Q) :
    (Assembly.template.column d (x.map ofQuery)).queries = x.queries := by
  cases x <;> simp [Column.map, Assembly.column, Column.queries]

theorem queries_columns (xs : List (Column Q)) :
    (Assembly.template.columns d (xs.map (Column.map ofQuery))).queries =
      xs.flatMap Column.queries := by
  rw [Assembly.columns, queries_join, List.map_map, List.flatMap_map]
  exact congrArg (xs.flatMap ·) (funext (queries_column d))

theorem queries_joinOne (x : Join Q) :
    (Assembly.template.joinOne d (x.map ofQuery)).queries = x.queries := by
  have hon : ∀ on : Template Q, queries (if Assembly.template.isEmpty on then
      Assembly.template.text "" else Assembly.template.text " ON " ++ on) = on.queries := by
    intro on
    split
    · rename_i hempty
      rw [queries_of_isEmpty hempty, queries_text]
    · simp
  simp only [Assembly.joinOne, Join.map, Join.queries, queries_append, queries_source,
    queries_text, List.nil_append, ← queries_conditions d x.on]
  exact congrArg (x.table.queries ++ ·) (hon _)

theorem queries_combine (parenthesize : Bool) (x : Combine Q) :
    (Assembly.template.combine parenthesize (x.map ofQuery)).queries = x.queries := by
  cases x <;> cases parenthesize <;> simp [Combine.map, Assembly.combine, Combine.queries]

theorem queries_order (x : Order) : (Assembly.template.order d x : Template Q).queries = [] := by
  cases x <;> simp [Assembly.order]

/-- The queries of a component that may be left out. -/
def queries? (a? : Option (Template Q)) : List Q :=
  a?.elim [] queries

theorem queries_nonEmpty (a : Template Q) :
    queries? (Assembly.template.nonEmpty? a) = a.queries := by
  rw [Assembly.nonEmpty?]
  split
  · rename_i hempty
    exact (queries_of_isEmpty hempty).symm
  · rfl

theorem queries_select (s : Store (Template Q)) (isDistinct : Bool) :
    (Assembly.template.select d s isDistinct).queries =
      (Assembly.template.components d s isDistinct).flatMap queries? := by
  rw [Assembly.select, queries_join]
  induction Assembly.template.components d s isDistinct with
  | nil => rfl
  | cons a? as ih =>
    cases a? with
    | none => exact ih
    | some a =>
      have htrim : (Assembly.template.trim a).queries = a.queries := queries_trim a
      rw [List.filterMap_cons_some (f := id) rfl, List.map_cons, List.filter_cons,
        List.flatMap_cons, ← ih, queries?, Option.elim_some, ← htrim]
      split
      · rw [List.flatMap_cons]
      · rename_i hempty
        rw [queries_of_isEmpty (by simpa using hempty), List.nil_append]

/-- What is put in front of a component has no places. -/
theorem queries_map_lead (s : String) (a? : Option (Template Q)) :
    queries? (a?.map (Assembly.template.text s ++ ·)) = queries? a? := by
  cases a? <;> simp [queries?]

theorem queries_map_text {α : Type} (f : α → String) (a? : Option α) :
    queries? (a?.map fun a => (Assembly.template.text (f a) : Template Q)) = [] := by
  cases a? <;> simp [queries?]

end Template

/-! ## Components -/

section Components

open Template

variable {α : Type} {component : Component} {p? : Clause Q → Option α} {mk : α → Clause Q}
  {s : Store Q} {d : Dialect}

theorem Store.clauses_eq_map_get (hmk : component.Payload p? mk)
    (h : s.misplaced? component = none) : s.clauses component = (s.get p? component).map mk := by
  obtain ⟨payloads, hclauses, hread⟩ := getStrict_eq_ok hmk h
  rw [hclauses, get_of_getStrict hread]

theorem Store.queries_written (hmk : component.Payload p? mk)
    (h : s.misplaced? component = none) (hsingle : component.isSingle = false) :
    (s.written component).flatMap Clause.queries =
      (s.get p? component).flatMap fun a => (mk a).queries := by
  rw [written, hsingle, clauses_eq_map_get hmk h]
  simp only [Bool.false_eq_true, if_false, List.flatMap_map]

theorem Store.queries_written_first (hmk : component.Payload p? mk)
    (h : s.misplaced? component = none) (hsingle : component.isSingle = true) :
    (s.written component).flatMap Clause.queries =
      (s.get p? component).head?.elim [] fun a => (mk a).queries := by
  rw [written, hsingle, clauses_eq_map_get hmk h]
  cases s.get p? component <;> simp

theorem Store.queries_written_eq_nil (hmk : component.Payload p? mk)
    (h : s.misplaced? component = none) (hnil : ∀ a, (mk a).queries = []) :
    (s.written component).flatMap Clause.queries = [] := by
  rw [written, clauses_eq_map_get hmk h]
  split <;> simp [← List.map_take, List.flatMap_map, hnil]

theorem queries_aggregate (h : s.misplaced? .aggregate = none) (isDistinct : Bool) :
    queries? (Assembly.template.aggregate d (s.map ofQuery) isDistinct) =
      (s.written .aggregate).flatMap Clause.queries := by
  rw [Store.queries_written_eq_nil .aggregate h fun _ => rfl, Assembly.aggregate]
  exact queries_map_text _ _

theorem queries_projection (h : s.has .aggregate = false → s.misplaced? .select = none)
    (isDistinct : Bool) :
    queries? (Assembly.template.projection d (s.map ofQuery) isDistinct) =
      if !s.has .aggregate then (s.written .select).flatMap Clause.queries else [] := by
  rw [Assembly.projection, Store.has_map]
  cases haggregate : s.has .aggregate with
  | true => rfl
  | false =>
    have hcolumns := queries_columns d (s.get Clause.column? .select)
    rw [Store.queries_written .select (h haggregate) rfl,
      Store.get_map (Clause.column_map ofQuery)]
    cases hget : s.get Clause.column? .select with
    | nil => simp [queries?]
    | cons x xs =>
      rw [hget] at hcolumns
      simpa [queries?, Clause.queries] using hcolumns

theorem queries_from (h : s.misplaced? .from = none) :
    queries? (Assembly.template.fromSource d (s.map ofQuery)) =
      (s.written .from).flatMap Clause.queries := by
  rw [Store.queries_written_first .from h rfl, Assembly.fromSource,
    Store.get_map (Clause.source_map ofQuery), List.head?_map]
  cases (s.get Clause.source? .from).head? <;> simp [queries?, queries_source, Clause.queries]

theorem queries_joins (h : s.misplaced? .join = none) :
    queries? (Assembly.template.joins d (s.map ofQuery)) =
      (s.written .join).flatMap Clause.queries := by
  rw [Store.queries_written .join h rfl, Assembly.joins, queries_nonEmpty,
    queries_join, Store.get_map (Clause.join_map ofQuery), List.map_map, List.flatMap_map]
  simp [queries_joinOne, Clause.queries]

theorem queries_restriction (h : s.has .from = true → s.misplaced? .where = none) :
    queries? (Assembly.template.restriction d (s.map ofQuery)) =
      if s.has .from then (s.written .where).flatMap Clause.queries else [] := by
  rw [Assembly.restriction, Store.has_map, Store.has_map]
  cases hfrom : s.has .from with
  | false => rfl
  | true =>
    have hconditions := queries_conditions d (s.get Clause.condition? .where)
    rw [Store.queries_written .where (h hfrom) rfl,
      Store.get_map (Clause.condition_map ofQuery)]
    cases hwhere : s.has .where with
    | false =>
      have hnone : s.get Clause.condition? .where = [] := by
        rw [Store.get, (Store.has_eq_false_iff s .where).mp hwhere]
        rfl
      simp [hnone, queries?]
    | true =>
      simp only [Bool.and_self, if_true]
      rw [queries_map_lead, queries_nonEmpty, hconditions]
      rfl

theorem queries_groups (h : s.misplaced? .group = none) :
    queries? (Assembly.template.groups d (s.map ofQuery)) =
      (s.written .group).flatMap Clause.queries := by
  have hcolumns := queries_columns d (s.get Clause.column? .group)
  rw [Store.queries_written .group h rfl, Assembly.groups,
    Store.get_map (Clause.column_map ofQuery)]
  cases hget : s.get Clause.column? .group with
  | nil => rfl
  | cons x xs =>
    rw [hget] at hcolumns
    simpa [queries?, Clause.queries] using hcolumns

theorem queries_havings (h : s.misplaced? .having = none) :
    queries? (Assembly.template.havings d (s.map ofQuery)) =
      (s.written .having).flatMap Clause.queries := by
  have hterms := queries_terms d (s.get Clause.condition? .having)
  rw [Condition.queriesAll_eq_flatMap, Condition.mapList_eq_map] at hterms
  rw [Store.queries_written .having h rfl, Assembly.havings, queries_nonEmpty,
    queries_joinTerms, Store.get_map (Clause.condition_map ofQuery), List.flatMap_map]
  simpa [Clause.queries] using hterms

theorem queries_orders (h : s.misplaced? .order = none) :
    queries? (Assembly.template.orders d (s.map ofQuery)) =
      (s.written .order).flatMap Clause.queries := by
  rw [Store.queries_written_eq_nil .order h fun _ => rfl, Assembly.orders]
  cases (s.map ofQuery).get Clause.order? .order with
  | nil => rfl
  | cons x xs => simp [queries?, queries_join, List.flatMap_map, queries_order]

theorem queries_number (keyword : String) (n? : Option UInt32) :
    queries? (Assembly.template.number keyword n? : Option (Template Q)) = [] := by
  cases n? <;> simp [Assembly.number, queries?]

theorem queries_limit (h : s.misplaced? .limit = none) :
    queries? (Assembly.template.limit (s.map ofQuery)) ++
        queries? (Assembly.template.offset (s.map ofQuery)) =
      (s.written .limit).flatMap Clause.queries := by
  rw [Store.queries_written_eq_nil .limit h fun _ => rfl, Assembly.limit,
    Assembly.offset, queries_number, queries_number, List.append_nil]

theorem queries_setOperations (h : d.writesUnions = true → s.misplaced? .union = none) :
    queries? (Assembly.template.setOperations d (s.map ofQuery)) =
      if d.writesUnions then (s.written .union).flatMap Clause.queries else [] := by
  have hcombines : s.misplaced? .union = none → ∀ parenthesize,
      queries? (Assembly.template.combines (s.map ofQuery) parenthesize) =
        (s.written .union).flatMap Clause.queries := by
    intro hunion parenthesize
    rw [Store.queries_written .union hunion rfl, Assembly.combines, queries_nonEmpty,
      queries_join, Store.get_map (Clause.combine_map ofQuery), List.map_map, List.flatMap_map]
    simp [queries_combine, Clause.queries]
  rw [Dialect.writesUnions] at h ⊢
  rw [Assembly.setOperations]
  cases hcombine : d.combines with
  | omitted => rfl
  | bare => exact hcombines (h (by rw [hcombine])) false
  | parenthesized => exact hcombines (h (by rw [hcombine])) true

theorem queries_lock (h : s.misplaced? .lock = none) :
    queries? (Assembly.template.lock d (s.map ofQuery)) =
      (s.written .lock).flatMap Clause.queries := by
  rw [Store.queries_written_eq_nil .lock h fun _ => rfl, Assembly.lock]
  exact queries_map_text id _

/-- The places in a template are those of the nested queries that are written. -/
theorem queries_template (isDistinct : Bool)
    (hs : ∀ component, s.writes d.writesUnions component = true →
      s.misplaced? component = none) :
    (Assembly.template.select d (s.map ofQuery) isDistinct).queries =
      s.queries d.writesUnions := by
  have hlimit := queries_limit (hs .limit rfl)
  rw [queries_select, Store.queries]
  simp only [Assembly.components, Component.inWritingOrder, List.flatMap_cons, List.flatMap_nil,
    Store.writes, if_true]
  rw [queries_aggregate (hs .aggregate rfl),
    queries_projection fun h => hs .select (by rw [Store.writes, h]; rfl),
    queries_from (hs .from rfl), queries_joins (hs .join rfl), queries_restriction (hs .where),
    queries_groups (hs .group rfl), queries_havings (hs .having rfl),
    queries_orders (hs .order rfl), queries_setOperations (hs .union), queries_lock (hs .lock rfl),
    ← hlimit, List.append_assoc]
  rfl

end Components

end SqlSelect
