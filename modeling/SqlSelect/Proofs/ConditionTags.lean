import SqlSelect.Proofs.DeepJoins
import SqlSelect.Proofs.Template

/-!
# The tags of a query

A condition is written by the handler of its tag. `Query.tags` lists the tags of all conditions in a
query tree: in restrictions and in the conditions of joins, in groups at any depth and in nested
queries. A deep join with a path brings the tag of column comparisons with it, since that is what it
is expanded to. Expansion adds no other tag.
-/

namespace SqlSelect

variable {Q R : Type}

/-! ## The tags of one query -/

mutual

/-- The tag of a predicate and the tags of what is grouped in it, but not of nested queries. -/
def Predicate.tags : Predicate Q → List String
  | .group items => PredicateForm.group.tag :: Condition.tagsAll items
  | p => [p.tag]

def Condition.tags : Condition Q → List String
  | ⟨_, _, p⟩ => p.tags

def Condition.tagsAll : List (Condition Q) → List String
  | [] => []
  | c :: cs => c.tags ++ Condition.tagsAll cs

end

/-- The tag of the conditions in the joins of a chain; a path without segments has no joins. -/
def DeepJoin.tags (d : DeepJoin) : List String :=
  if d.segments.isEmpty then [] else [PredicateForm.compareColumns.tag]

def Clause.tags : Clause Q → List String
  | .join j => Condition.tagsAll j.on
  | .where c | .having c => c.tags
  | .deepJoin d => d.tags
  | .from _ | .group _ | .select _ | .order _ | .limit _ | .union _ | .aggregate _ | .lock _ => []

def Store.tags (s : Store Q) : List String :=
  s.entries.flatMap fun e => e.clause.tags

theorem Predicate.tag_mem_tags (p : Predicate Q) : p.tag ∈ p.tags := by
  cases p <;> exact List.mem_cons_self

theorem Condition.mem_tagsAll {tag : String} {cs : List (Condition Q)} :
    tag ∈ Condition.tagsAll cs ↔ ∃ c ∈ cs, tag ∈ c.tags := by
  induction cs with
  | nil => simp [Condition.tagsAll]
  | cons c cs ih => simp [Condition.tagsAll, ih]

section Payloads

variable {clause : Clause Q}

theorem Clause.tags_of_join {j : Join Q} (h : clause.join? = some j) :
    clause.tags = Condition.tagsAll j.on := by
  cases clause <;> cases h
  rfl

theorem Clause.tags_of_condition {c : Condition Q} (h : clause.condition? = some c) :
    clause.tags = c.tags := by
  cases clause <;> cases h <;> rfl

end Payloads

section Map

variable (f : Q → R)

mutual

theorem Predicate.tags_map : ∀ p : Predicate Q, (p.map f).tags = p.tags
  | .group items => by
    rw [Predicate.map, Predicate.tags, Predicate.tags, Condition.tagsAll_mapList items]
  | .compare .. | .text .. | .compareColumns .. | .raw .. | .isNull .. | .between .. | .oneOf ..
  | .inQuery .. | .existsQuery .. | .custom .. => rfl

theorem Condition.tags_map : ∀ c : Condition Q, (c.map f).tags = c.tags
  | ⟨_, _, p⟩ => by rw [Condition.map, Condition.tags, Condition.tags, Predicate.tags_map p]

theorem Condition.tagsAll_mapList : ∀ cs : List (Condition Q),
    Condition.tagsAll (Condition.mapList f cs) = Condition.tagsAll cs
  | [] => rfl
  | c :: cs => by
    rw [Condition.mapList, Condition.tagsAll, Condition.tagsAll, Condition.tags_map c,
      Condition.tagsAll_mapList cs]

end

theorem Clause.tags_map (c : Clause Q) : (c.map f).tags = c.tags := by
  cases c with
  | join j =>
    simp only [Clause.map, Join.map, Clause.tags, ← Condition.mapList_eq_map]
    exact Condition.tagsAll_mapList f j.on
  | «where» c => exact Condition.tags_map f c
  | having c => exact Condition.tags_map f c
  | _ => rfl

theorem Store.tags_map (s : Store Q) : (s.map f).tags = s.tags := by
  simp only [Store.tags, Store.map, List.flatMap_map, Entry.map, Clause.tags_map]

end Map

/-! ## The tags of a tree -/

/-- The tags of all conditions in a query tree. -/
def Query.tags : Query → List String :=
  Query.fold fun s _ => s.tags ++ s.entries.flatMap fun e => e.clause.queries.flatten

section Queries

variable {N : Q → Prop}

mutual

theorem Predicate.meets_iff_queries : ∀ p : Predicate Q, p.Meets .any N ↔ ∀ q ∈ p.queries, N q
  | .group items => by
    simp only [Predicate.Meets, Predicate.queries]
    exact Condition.meetsAll_iff_queries items
  | .compare .. | .text .. | .compareColumns .. | .raw .. | .isNull .. | .between .. | .oneOf ..
  | .inQuery .. | .existsQuery .. | .custom .. => by
    simp [Predicate.Meets, Predicate.queries, Policy.any]

theorem Condition.meets_iff_queries : ∀ c : Condition Q, c.Meets .any N ↔ ∀ q ∈ c.queries, N q
  | ⟨_, _, p⟩ => by
    simp only [Condition.Meets, Condition.queries]
    exact Predicate.meets_iff_queries p

theorem Condition.meetsAll_iff_queries : ∀ cs : List (Condition Q),
    Condition.MeetsAll .any N cs ↔ ∀ q ∈ Condition.queriesAll cs, N q
  | [] => by simp [Condition.MeetsAll, Condition.queriesAll]
  | c :: cs => by
    simp only [Condition.MeetsAll, Condition.queriesAll, List.forall_mem_append]
    exact and_congr (Condition.meets_iff_queries c) (Condition.meetsAll_iff_queries cs)

end

/-- What is asked of nested queries is asked of every query in the list of them. -/
theorem Clause.meets_iff_queries (c : Clause Q) : c.Meets .any N ↔ ∀ q ∈ c.queries, N q := by
  have hcolumn : ∀ c : Column Q, c.Meets .any N ↔ ∀ q ∈ c.queries, N q := by
    intro c
    cases c <;> simp [Column.Meets, Column.queries, Policy.any]
  have hsource : ∀ s : Source Q, s.Meets .any N ↔ ∀ q ∈ s.queries, N q := by
    intro s
    cases s <;> simp [Source.Meets, Source.queries, Policy.any]
  cases c with
  | «from» s => exact hsource s
  | join j =>
    simp only [Clause.queries, Join.queries, ← Condition.queriesAll_eq_flatMap,
      List.forall_mem_append, ← hsource, ← Condition.meetsAll_iff_queries]
    exact ⟨fun h => ⟨h.table, h.on⟩, fun h => ⟨h.1, h.2⟩⟩
  | «where» c => exact c.meets_iff_queries
  | having c => exact c.meets_iff_queries
  | group c => exact hcolumn c
  | select c => exact hcolumn c
  | union c =>
    cases c <;> simp [Clause.Meets, Combine.Meets, Clause.queries, Combine.queries, Policy.any]
  | order o => cases o <;> simp [Clause.Meets, Order.Meets, Clause.queries, Policy.any]
  | deepJoin _ => simp [Clause.Meets, Clause.queries]
  | limit _ => simp [Clause.Meets, Clause.queries]
  | aggregate _ => simp [Clause.Meets, Clause.queries]
  | lock _ => simp [Clause.Meets, Clause.queries]

end Queries

/-! ## Expansion -/

section Expand

variable {X : String → Prop} {s : Store Q}

theorem Store.forall_tags_iff :
    (∀ tag ∈ s.tags, X tag) ↔ s.Forall fun _ clause => ∀ tag ∈ clause.tags, X tag := by
  simp only [Store.tags, List.mem_flatMap, Store.Forall]
  constructor
  · intro h e he tag htag
    exact h tag ⟨e, he, htag⟩
  · rintro h tag ⟨e, he, htag⟩
    exact h e he tag htag

/-- The only tag that expansion adds is the one that a deep join with a path has already. -/
theorem Store.forall_tags_expand (h : ∀ tag ∈ s.tags, X tag) (x : Expander) :
    ∀ tag ∈ (x.expand s).store.tags, X tag := by
  rw [Store.forall_tags_iff] at h ⊢
  unfold Expander.expand
  split
  · exact h
  · rename_i triggers htriggers
    refine h.expandEach_of_segments x fun t ht hpath kind link => ?_
    have hentry : DeepJoin.entry t ∈ s.entriesOf .deepJoin := by
      rw [(Store.deepJoins_eq_ok_iff s triggers).mp htriggers]
      exact List.mem_map_of_mem ht
    have htags : ∀ tag ∈ t.2.tags, X tag := h _ (Store.mem_entriesOf.mp hentry).1
    rw [DeepJoin.tags, if_neg (by simpa using hpath)] at htags
    exact htags

theorem Compiler.forall_tags_expand (h : ∀ tag ∈ s.tags, X tag) (c : Compiler) :
    ∀ tag ∈ (c.expand s).store.tags, X tag := by
  unfold Compiler.expand
  split
  · exact Store.forall_tags_expand h c.expander
  · exact h

end Expand

end SqlSelect
