import SqlSelect.Proofs.Tree
import Mathlib.Data.List.Nodup

/-!
# Stores that can be reached

A store begins empty and changes by adding, replacing and erasing clauses, whatever the clauses and
the components they are put under. In every store that is reached in this way the numbers of the
clauses increase and lie below the next number, so a number stands for one clause at most and
erasing a number keeps all other clauses.

A query tree can be reached when every store in it can. `Query.Throughout` says of any condition on
stores that it holds at all levels of a tree.
-/

namespace SqlSelect

variable {Q R : Type}

namespace Store

/-- The stores that the operations on stores make from an empty one. -/
inductive Reachable : Store Q → Prop
  | empty : Reachable ⟨[], 0⟩
  | add {s : Store Q} (component : Component) (clause : Clause Q) :
      Reachable s → Reachable (s.add component clause)
  | replace {s : Store Q} (component : Component) (clause : Clause Q) :
      Reachable s → Reachable (s.replace component clause)
  | erase {s : Store Q} (id : Nat) : Reachable s → Reachable (s.erase id)

/-- The numbers of the clauses increase and are smaller than the next one. -/
structure Ordered (s : Store Q) : Prop where
  increasing : s.entries.Pairwise (·.id < ·.id)
  bounded : ∀ e ∈ s.entries, e.id < s.nextId

namespace Ordered

variable {s : Store Q}

theorem add (h : s.Ordered) (component : Component) (clause : Clause Q) :
    (s.add component clause).Ordered := by
  constructor
  · refine List.pairwise_append.mpr ⟨h.increasing, List.pairwise_singleton _ _, ?_⟩
    intro e he e' he'
    rw [List.mem_singleton.mp he']
    exact h.bounded e he
  · intro e he
    rcases List.mem_append.mp he with he | he
    · exact Nat.lt_succ_of_lt (h.bounded e he)
    · rw [List.mem_singleton.mp he]
      exact Nat.lt_succ_self _

/-- Clauses may be dropped. -/
theorem sublist (h : s.Ordered) {es : List (Entry Q)} (hes : es.Sublist s.entries) :
    Ordered ⟨es, s.nextId⟩ :=
  ⟨h.increasing.sublist hes, fun e he => h.bounded e (hes.subset he)⟩

theorem replace (h : s.Ordered) (component : Component) (clause : Clause Q) :
    (s.replace component clause).Ordered :=
  (h.sublist List.filter_sublist).add component clause

theorem erase (h : s.Ordered) (id : Nat) : (s.erase id).Ordered :=
  h.sublist List.eraseP_sublist

theorem map (h : s.Ordered) (f : Q → R) : (s.map f).Ordered := by
  constructor
  · exact List.pairwise_map.mpr h.increasing
  · intro e he
    obtain ⟨e', he', rfl⟩ := List.mem_map.mp he
    exact h.bounded e' he'

/-- A number stands for one clause. -/
theorem eq_of_id_eq (h : s.Ordered) {e e' : Entry Q} (he : e ∈ s.entries) (he' : e' ∈ s.entries)
    (hid : e.id = e'.id) : e = e' := by
  have hids : (s.entries.map (·.id)).Nodup :=
    List.pairwise_map.mpr (h.increasing.imp fun hlt => Nat.ne_of_lt hlt)
  exact List.inj_on_of_nodup_map hids he he' hid

/-- Erasing a number drops no other clause. -/
theorem entries_erase (h : s.Ordered) (id : Nat) :
    (s.erase id).entries = s.entries.filter (·.id != id) := by
  have hp := h.increasing
  rw [Store.erase]
  generalize s.entries = es at hp
  induction es with
  | nil => rfl
  | cons e es ih =>
    rw [List.pairwise_cons] at hp
    by_cases he : e.id = id
    · have hlater : es.filter (·.id != id) = es := by
        rw [List.filter_eq_self]
        intro e' he'
        have hlt := hp.1 e' he'
        rw [bne_iff_ne]
        omega
      simp [he, hlater]
    · simpa [he] using ih hp.2

end Ordered

theorem Reachable.ordered {s : Store Q} (h : s.Reachable) : s.Ordered := by
  induction h with
  | empty => exact ⟨List.Pairwise.nil, fun e he => absurd he List.not_mem_nil⟩
  | add component clause _ ih => exact ih.add component clause
  | replace component clause _ ih => exact ih.replace component clause
  | erase id _ ih => exact ih.erase id

end Store

/-! ## Query trees -/

/-- The condition holds of the store of the query and of those of all queries nested in it. -/
inductive Query.Throughout (K : Store Query → Prop) : Query → Prop
  | intro {q : Query} {N : Query → Prop} (nested : ∀ p, N p → Throughout K p) :
      K q.clauses → q.clauses.Meets .any N → Throughout K q

theorem Query.throughout_iff (K : Store Query → Prop) (q : Query) :
    q.Throughout K ↔ K q.clauses ∧ q.clauses.Meets .any (Query.Throughout K) := by
  constructor
  · intro h
    cases h with
    | intro nested hK hq => exact ⟨hK, hq.mono nested⟩
  · rintro ⟨hK, hq⟩
    exact .intro (fun _ h => h) hK hq

namespace Query.Throughout

variable {K : Store Query → Prop} {q : Query} {clause : Clause Query}

theorem mono {L : Store Query → Prop} (hL : ∀ s, K s → L s) (h : q.Throughout K) :
    q.Throughout L := by
  induction h with
  | intro _ hK hq ih => exact .intro ih (hL _ hK) hq

theorem empty (hK : K Query.empty.clauses) : Query.empty.Throughout K :=
  (Query.throughout_iff _ _).mpr ⟨hK, .empty⟩

theorem push (h : q.Throughout K) (hc : clause.Meets .any (Query.Throughout K))
    (hK : K (q.push clause).clauses) : (q.push clause).Throughout K :=
  (Query.throughout_iff _ _).mpr ⟨hK, ((Query.throughout_iff _ q).mp h).2.add hc _⟩

theorem set (h : q.Throughout K) (hc : clause.Meets .any (Query.Throughout K))
    (hK : K (q.set clause).clauses) : (q.set clause).Throughout K :=
  (Query.throughout_iff _ _).mpr ⟨hK, ((Query.throughout_iff _ q).mp h).2.replace hc _⟩

end Query.Throughout

/-- Every store in the tree can be reached. -/
def Query.Reachable : Query → Prop :=
  Query.Throughout Store.Reachable

namespace Query.Reachable

variable {q : Query} {clause : Clause Query}

theorem empty : Query.empty.Reachable :=
  Query.Throughout.empty .empty

theorem push (h : q.Reachable) (hc : clause.Meets .any Query.Reachable) :
    (q.push clause).Reachable :=
  Query.Throughout.push h hc (.add _ _ ((Query.throughout_iff _ q).mp h).1)

theorem set (h : q.Reachable) (hc : clause.Meets .any Query.Reachable) :
    (q.set clause).Reachable :=
  Query.Throughout.set h hc (.replace _ _ ((Query.throughout_iff _ q).mp h).1)

end Query.Reachable

end SqlSelect
