import SqlSelect.Proofs.DeepJoins

/-!
# Histories of a store

Callers add, replace and remove clauses and have deep joins expanded, in any order. What one of
these operations can do to a store is said once, in `Step`: which clauses it drops, that it keeps
all others as they are, and that whatever it stores has a number from the next one on. From this
follow, over whole histories, that numbers are given out in order without a gap and never again, and
that a number which a caller holds stands for the clause it was given for until that clause is
dropped, and for nothing afterwards.

Which clauses an operation drops is said of the store before it, without running the operation.
-/

namespace SqlSelect

variable {Q : Type}

namespace Store

/-- One operation on a store. -/
inductive Operation (Q : Type) where
  | add (component : Component) (clause : Clause Q)
  | replace (component : Component) (clause : Clause Q)
  | remove (id : Nat)
  | expand (x : Expander)

/-- Expansion reaches the entry and gets past it: there is nothing but deep joins under their
component, and those up to this entry have a root or need none. -/
structure Clears (s : Store Q) (e : Entry Q) : Prop where
  placed : ∀ clause ∈ s.clauses .deepJoin, ∃ d, clause = .deepJoin d
  rooted : ∀ e' ∈ s.entriesOf .deepJoin, e'.id ≤ e.id →
    ∀ d, e'.clause = .deepJoin d → d.segments = [] ∨ s.rootName?.isSome = true

namespace Operation

def run (s : Store Q) : Operation Q → Store Q
  | add component clause => s.add component clause
  | replace component clause => s.replace component clause
  | remove id => s.erase id
  | expand x => (x.expand s).store

/-- What is stored for the caller, under the number that the caller gets. -/
def entry? (s : Store Q) : Operation Q → Option (Entry Q)
  | add component clause | replace component clause => some ⟨s.nextId, component, clause⟩
  | remove _ | expand _ => none

/-- Whether an entry of the store is dropped. -/
def Drops (s : Store Q) (e : Entry Q) : Operation Q → Prop
  | add _ _ => False
  | replace component _ => e.component = component
  | remove id => e.id = id
  | expand _ => e.component = .deepJoin ∧ s.Clears e

/-- What is stored with numbers that were not given out before. -/
def stored (s : Store Q) (op : Operation Q) : List (Entry Q) :=
  (op.run s).entries.filter (s.nextId ≤ ·.id)

end Operation

/-- The store after a list of operations. -/
def run (s : Store Q) (ops : List (Operation Q)) : Store Q :=
  ops.foldl Operation.run s

/-- All that is stored along the way, in order. -/
def stored (s : Store Q) : List (Operation Q) → List (Entry Q)
  | [] => []
  | op :: ops => op.stored s ++ (op.run s).stored ops

/-- Whether an entry is dropped along the way. -/
def Dropped (s : Store Q) (e : Entry Q) : List (Operation Q) → Prop
  | [] => False
  | op :: ops => op.Drops s e ∨ (op.run s).Dropped e ops

/-! ## One operation -/

/-- What an operation makes of a store. -/
structure Step (op : Operation Q) (s s' : Store Q) : Prop where
  ordered : s'.Ordered
  kept : ∀ e ∈ s.entries, e ∈ s'.entries ↔ ¬op.Drops s e
  fresh : ∀ e ∈ s'.entries, e ∈ s.entries ∨ s.nextId ≤ e.id
  nextId_le : s.nextId ≤ s'.nextId
  numbers : (s'.entries.filter (s.nextId ≤ ·.id)).map (·.id) =
    List.range' s.nextId (s'.nextId - s.nextId)

variable {s : Store Q}

theorem Ordered.filter_nextId (h : s.Ordered) {es : List (Entry Q)} (hes : es ⊆ s.entries) :
    es.filter (s.nextId ≤ ·.id) = [] := by
  rw [List.filter_eq_nil_iff]
  intro e he
  simpa using h.bounded e (hes he)

theorem Ordered.mem_append_new {es : List (Entry Q)} (h : s.Ordered) {e new : Entry Q}
    (he : e ∈ s.entries) (hnew : new.id = s.nextId) : e ∈ es ++ [new] ↔ e ∈ es := by
  have hne : e ≠ new := by
    rintro rfl
    exact absurd (h.bounded e he) (by omega)
  simp [hne]

/-- Clauses are dropped and one is added under the next number. -/
theorem Ordered.step_add (h : s.Ordered) {op : Operation Q} {es : List (Entry Q)}
    (hes : es.Sublist s.entries) (hkept : ∀ e ∈ s.entries, e ∈ es ↔ ¬op.Drops s e)
    (component : Component) (clause : Clause Q) :
    Step op s (Store.add ⟨es, s.nextId⟩ component clause) where
  ordered := (h.sublist hes).add component clause
  kept := by
    intro e he
    rw [← hkept e he]
    exact h.mem_append_new he rfl
  fresh := by
    intro e he
    rcases List.mem_append.mp he with he | he
    · exact Or.inl (hes.subset he)
    · rw [List.mem_singleton.mp he]
      exact Or.inr (Nat.le_refl _)
  nextId_le := Nat.le_succ _
  numbers := by
    rw [Store.add, List.filter_append, h.filter_nextId hes.subset]
    simp

theorem Ordered.step_remove (h : s.Ordered) (id : Nat) : Step (.remove id) s (s.erase id) where
  ordered := h.erase id
  kept := by
    intro e he
    rw [h.entries_erase, List.mem_filter, bne_iff_ne]
    exact and_iff_right he
  fresh := fun e he => Or.inl (List.eraseP_sublist.subset he)
  nextId_le := Nat.le_refl _
  numbers := by
    rw [Store.erase, h.filter_nextId List.eraseP_sublist.subset]
    simp

theorem map_id_joinEntries (first : Nat) (joins : List (Join Q)) :
    (joinEntries first joins).map (·.id) = List.range' first joins.length := by
  apply List.ext_getElem
  · simp [joinEntries]
  · intro k hk hk'
    simp [joinEntries]

theorem mem_entries_iff (s : Store Q) (component : Component) (e : Entry Q) :
    e ∈ s.entries ↔ e ∈ s.entriesOf component ∨ e ∈ s.entriesBesides component := by
  by_cases h : e.component = component <;> simp [entriesOf, entriesBesides, h]

theorem id_of_mem_joinEntries {first : Nat} {joins : List (Join Q)} {e : Entry Q}
    (h : e ∈ joinEntries first joins) : first ≤ e.id := by
  obtain ⟨k, _, rfl⟩ := List.mem_mapIdx.mp h
  exact Nat.le_add_right _ _

section Expansion

variable {x : Expander} {s' : Store Q} {more left : List (Nat × DeepJoin)}

/-- The deep joins that are left are in order, after those that are done. -/
theorem Ordered.pairwise_triggers (h : s.Ordered) (hs : s.deepJoins = .ok (more ++ left)) :
    (left.map (DeepJoin.entry (Q := Q))).Pairwise (·.id < ·.id) ∧
      ∀ e ∈ more.map (DeepJoin.entry (Q := Q)), ∀ e' ∈ left.map (DeepJoin.entry (Q := Q)),
        e.id < e'.id := by
  have hincreasing : (s.entriesOf .deepJoin).Pairwise (·.id < ·.id) := h.increasing.filter _
  rw [(s.deepJoins_eq_ok_iff _).mp hs, List.map_append, List.pairwise_append] at hincreasing
  exact hincreasing.2

/-- Expansion does not get past the deep joins that are left: the first has segments and no root. -/
theorem Ordered.not_clears (h : s.Ordered) (hs : s.deepJoins = .ok (more ++ left))
    {failure? : Option CompileError} (hhalts : x.Halts s left failure?) {e : Entry Q}
    (he : e ∈ left.map DeepJoin.entry) : ¬s.Clears e := by
  intro hclears
  cases hhalts with
  | finished => exact absurd he List.not_mem_nil
  | @failed id d rest error herror =>
    obtain ⟨hok, _⟩ | ⟨_, hsegments, hroot⟩ := x.chain_cases s d
    · rw [hok] at herror
      cases herror
    · have hfirst : DeepJoin.entry (id, d) ∈ s.entriesOf .deepJoin := by
        rw [(s.deepJoins_eq_ok_iff _).mp hs]
        simp
      have hle : id ≤ e.id := by
        have hleft := (h.pairwise_triggers hs).1
        rw [List.map_cons, List.pairwise_cons] at hleft
        rcases List.mem_cons.mp he with rfl | hrest
        · exact Nat.le_refl _
        · exact Nat.le_of_lt (hleft.1 e hrest)
      rcases hclears.rooted _ hfirst hle d rfl with hempty | hsome
      · exact hsegments hempty
      · rw [hroot] at hsome
        cases hsome

/-- Expansion gets past exactly the deep joins that are done. -/
theorem Ordered.clears_iff (h : s.Ordered) (hs : s.deepJoins = .ok (more ++ left))
    (hp : x.Progress s s' (more.map (·.2)) left) {failure? : Option CompileError}
    (hhalts : x.Halts s left failure?) {e : Entry Q} (he : e ∈ s.entriesOf .deepJoin) :
    s.Clears e ↔ e ∉ left.map DeepJoin.entry := by
  have hentries := (s.deepJoins_eq_ok_iff _).mp hs
  refine ⟨fun hclears hleft => h.not_clears hs hhalts hleft hclears, ?_⟩
  intro hleft
  have hmore : e ∈ more.map DeepJoin.entry := by
    rw [hentries, List.map_append, List.mem_append] at he
    exact he.resolve_right hleft
  constructor
  · intro clause hclause
    rw [clauses, hentries, List.map_map] at hclause
    obtain ⟨t, _, rfl⟩ := List.mem_map.mp hclause
    exact ⟨t.2, rfl⟩
  · intro e' he' hle d hd
    rw [hentries, List.map_append, List.mem_append] at he'
    rcases he' with he' | he'
    · obtain ⟨t, ht, rfl⟩ := List.mem_map.mp he'
      cases hd
      exact hp.rooted _ (List.mem_map_of_mem ht)
    · have hlt := (h.pairwise_triggers hs).2 e hmore e' he'
      omega

/-- An entry is in the store after expansion when it is a deep join that is left, an entry outside
deep joins, or a join that was added. -/
theorem mem_of_progress {done : List DeepJoin} (hp : x.Progress s s' done left) (e : Entry Q) :
    e ∈ s'.entries ↔ e ∈ left.map DeepJoin.entry ∨ e ∈ s.entriesBesides .deepJoin ∨
      e ∈ joinEntries s.nextId (done.flatMap (x.joins s.rootName?)) := by
  rw [mem_entries_iff s' .deepJoin, hp.pending, hp.besides, List.mem_append]

theorem Ordered.step_expand (h : s.Ordered) (x : Expander) :
    Step (.expand x) s (x.expand s).store := by
  cases hs : s.deepJoins with
  | error error =>
    have hnone : ∀ e, ¬s.Clears e := by
      intro e hclears
      obtain ⟨triggers, htriggers⟩ := exists_deepJoins hclears.placed
      rw [htriggers] at hs
      cases hs
    rw [Expander.expand, hs]
    exact ⟨h, fun e he => iff_of_true he fun hdrops => hnone e hdrops.2, fun e he => Or.inl he,
      Nat.le_refl _, by simp [h.filter_nextId (List.Subset.refl _)]⟩
  | ok triggers =>
    obtain ⟨more, left, rfl, hp, hhalts⟩ := Expander.expand_progress (x := x) h hs
    have hentries := (s.deepJoins_eq_ok_iff _).mp hs
    have hbesides : s.entriesBesides .deepJoin ⊆ s.entries :=
      List.filter_sublist.subset
    have hleft : left.map DeepJoin.entry ⊆ s.entries := by
      intro e he
      refine (mem_entriesOf.mp (?_ : e ∈ s.entriesOf .deepJoin)).1
      rw [hentries, List.map_append]
      exact List.mem_append_right _ he
    constructor
    · exact hp.ordered
    · intro e he
      have hnew : e ∉ joinEntries s.nextId ((more.map (·.2)).flatMap (x.joins s.rootName?)) := by
        intro hmem
        exact absurd (h.bounded e he) (Nat.not_lt.mpr (id_of_mem_joinEntries hmem))
      rw [mem_of_progress hp, Operation.Drops]
      by_cases hcomponent : e.component = .deepJoin
      · have hof : e ∈ s.entriesOf .deepJoin := mem_entriesOf.mpr ⟨he, hcomponent⟩
        have hnot : e ∉ s.entriesBesides .deepJoin := by simp [entriesBesides, hcomponent]
        simp only [h.clears_iff hs hp hhalts hof, hcomponent, hnot, hnew, true_and, not_not,
          or_false]
      · have hin : e ∈ s.entriesBesides .deepJoin := by simp [entriesBesides, hcomponent, he]
        simp only [hin, hcomponent, true_or, or_true, false_and, not_false_eq_true]
    · intro e he
      rcases (mem_of_progress hp e).mp he with he | he | he
      · exact Or.inl (hleft he)
      · exact Or.inl (hbesides he)
      · exact Or.inr (id_of_mem_joinEntries he)
    · exact hp.nextId_eq ▸ Nat.le_add_right _ _
    · -- the deep joins that are left have old numbers, so only the joins at the end count
      have hold : (x.expand s).store.entries.filter (s.nextId ≤ ·.id) =
          ((x.expand s).store.entriesBesides .deepJoin).filter (s.nextId ≤ ·.id) := by
        rw [entriesBesides, List.filter_filter]
        apply List.filter_congr
        intro e he
        by_cases hcomponent : e.component = .deepJoin
        · have hof := mem_entriesOf.mpr ⟨he, hcomponent⟩
          rw [hp.pending] at hof
          have hlt := h.bounded e (hleft hof)
          simpa [hcomponent] using hlt
        · simp [hcomponent]
      have hnew : ∀ joins : List (Join Q),
          (joinEntries s.nextId joins).filter (s.nextId ≤ ·.id) = joinEntries s.nextId joins := by
        intro joins
        rw [List.filter_eq_self]
        intro e he
        exact decide_eq_true (id_of_mem_joinEntries he)
      rw [hold, hp.besides, List.filter_append, h.filter_nextId hbesides, List.nil_append, hnew,
        map_id_joinEntries, hp.nextId_eq, Nat.add_sub_cancel_left]

end Expansion

theorem Ordered.step (h : s.Ordered) (op : Operation Q) : Step op s (op.run s) := by
  cases op with
  | add component clause =>
    refine h.step_add (List.Sublist.refl _) (fun e he => ?_) component clause
    exact iff_of_true he not_false
  | replace component clause =>
    refine h.step_add List.filter_sublist (fun e he => ?_) component clause
    rw [List.mem_filter, bne_iff_ne]
    exact and_iff_right he
  | remove id => exact h.step_remove id
  | expand x => exact h.step_expand x

/-! ## Histories -/

theorem Ordered.run (h : s.Ordered) (ops : List (Operation Q)) : (s.run ops).Ordered := by
  induction ops generalizing s with
  | nil => exact h
  | cons op ops ih => exact ih (h.step op).ordered

theorem Ordered.nextId_le_run (h : s.Ordered) (ops : List (Operation Q)) :
    s.nextId ≤ (s.run ops).nextId := by
  induction ops generalizing s with
  | nil => exact Nat.le_refl _
  | cons op ops ih => exact Nat.le_trans (h.step op).nextId_le (ih (h.step op).ordered)

/-- Numbers are given out in order and without a gap. -/
theorem Ordered.map_id_stored (h : s.Ordered) (ops : List (Operation Q)) :
    (s.stored ops).map (·.id) = List.range' s.nextId ((s.run ops).nextId - s.nextId) := by
  induction ops generalizing s with
  | nil =>
    rw [stored, Store.run, List.foldl_nil, Nat.sub_self]
    rfl
  | cons op ops ih =>
    have hstep := h.step op
    have hle := hstep.nextId_le
    have hlater := hstep.ordered.nextId_le_run ops
    rw [stored, List.map_append, Operation.stored, hstep.numbers, ih hstep.ordered]
    have hrun : s.run (op :: ops) = (op.run s).run ops := rfl
    have hnext : (op.run s).nextId = s.nextId + 1 * ((op.run s).nextId - s.nextId) := by omega
    have hsum : ((op.run s).run ops).nextId - s.nextId =
        ((op.run s).nextId - s.nextId) + (((op.run s).run ops).nextId - (op.run s).nextId) := by
      omega
    rw [hrun, hsum, ← List.range'_append, ← hnext]

/-- A number that has been given out and stands for nothing never stands for anything again. -/
theorem Ordered.absent_run (h : s.Ordered) {id : Nat} (hid : id < s.nextId)
    (habsent : ∀ e ∈ s.entries, e.id ≠ id) (ops : List (Operation Q)) :
    ∀ e ∈ (s.run ops).entries, e.id ≠ id := by
  induction ops generalizing s with
  | nil => exact habsent
  | cons op ops ih =>
    have hstep := h.step op
    refine ih hstep.ordered (Nat.lt_of_lt_of_le hid hstep.nextId_le) ?_
    intro e he
    rcases hstep.fresh e he with hold | hnew
    · exact habsent e hold
    · omega

/-- An entry stays until it is dropped. -/
theorem Ordered.mem_run (h : s.Ordered) {e : Entry Q} (he : e ∈ s.entries)
    {ops : List (Operation Q)} (hdropped : ¬s.Dropped e ops) : e ∈ (s.run ops).entries := by
  induction ops generalizing s with
  | nil => exact he
  | cons op ops ih =>
    rw [Dropped, not_or] at hdropped
    have hstep := h.step op
    exact ih hstep.ordered ((hstep.kept e he).mpr hdropped.1) hdropped.2

/-- Once an entry is dropped, its number stands for nothing. -/
theorem Ordered.absent_of_dropped (h : s.Ordered) {e : Entry Q} (he : e ∈ s.entries)
    {ops : List (Operation Q)} (hdropped : s.Dropped e ops) :
    ∀ e' ∈ (s.run ops).entries, e'.id ≠ e.id := by
  induction ops generalizing s with
  | nil => exact hdropped.elim
  | cons op ops ih =>
    have hstep := h.step op
    by_cases hkept : e ∈ (op.run s).entries
    · have hlater := hdropped.resolve_left ((hstep.kept e he).mp hkept)
      exact ih hstep.ordered hkept hlater
    · have hid := Nat.lt_of_lt_of_le (h.bounded e he) hstep.nextId_le
      refine hstep.ordered.absent_run hid ?_ ops
      intro e' he' heq
      rcases hstep.fresh e' he' with hold | hnew
      · exact hkept (h.eq_of_id_eq hold he heq ▸ he')
      · exact absurd (h.bounded e he) (by omega)

/-! ## Looking numbers up -/

theorem Ordered.find_eq (h : s.Ordered) {e : Entry Q} (he : e ∈ s.entries) :
    s.find? e.id = some e.clause := by
  have hsome : (s.entries.find? (·.id == e.id)).isSome = true := by
    rw [List.find?_isSome]
    exact ⟨e, he, beq_self_eq_true _⟩
  obtain ⟨e', he'⟩ := Option.isSome_iff_exists.mp hsome
  have hid : e'.id = e.id := by simpa using List.find?_some he'
  rw [find?, he', h.eq_of_id_eq (List.mem_of_find?_eq_some he') he hid]
  rfl

theorem find_eq_none {id : Nat} (h : ∀ e ∈ s.entries, e.id ≠ id) : s.find? id = none := by
  rw [find?, Option.map_eq_none_iff, List.find?_eq_none]
  intro e he
  simpa using h e he

theorem erase_eq_self {id : Nat} (h : ∀ e ∈ s.entries, e.id ≠ id) : s.erase id = s := by
  rw [erase, List.eraseP_of_forall_not]
  intro e he
  simpa using h e he

/-- The call's entry is in the store under the number that the caller gets. -/
theorem mem_of_entry {op : Operation Q} {e : Entry Q} (h : op.entry? s = some e) :
    e ∈ (op.run s).entries ∧ e.id = s.nextId ∧ e.id < (op.run s).nextId := by
  cases op with
  | add component clause =>
    cases h
    exact ⟨List.mem_append_right _ List.mem_cons_self, rfl, Nat.lt_succ_self _⟩
  | replace component clause =>
    cases h
    exact ⟨List.mem_append_right _ List.mem_cons_self, rfl, Nat.lt_succ_self _⟩
  | remove id => cases h
  | expand x => cases h

/-- Two calls give different numbers. -/
theorem Ordered.id_ne_of_entry (h : s.Ordered) {op op' : Operation Q}
    {between : List (Operation Q)} {e e' : Entry Q} (he : op.entry? s = some e)
    (he' : op'.entry? ((op.run s).run between) = some e') : e.id ≠ e'.id := by
  obtain ⟨_, _, hlt⟩ := mem_of_entry he
  obtain ⟨_, hid', _⟩ := mem_of_entry he'
  have hle := (h.step op).ordered.nextId_le_run between
  omega

/-- The number of an entry finds its clause until this is dropped, and nothing afterwards. -/
theorem Ordered.find_run (h : s.Ordered) {e : Entry Q} (he : e ∈ s.entries)
    (ops : List (Operation Q)) :
    (¬s.Dropped e ops → (s.run ops).find? e.id = some e.clause) ∧
      (s.Dropped e ops → (s.run ops).find? e.id = none ∧ (s.run ops).erase e.id = s.run ops) := by
  constructor
  · intro hdropped
    exact (h.run ops).find_eq (h.mem_run he hdropped)
  · intro hdropped
    have habsent := h.absent_of_dropped he hdropped
    exact ⟨find_eq_none habsent, erase_eq_self habsent⟩

theorem run_append (s : Store Q) (ops later : List (Operation Q)) :
    s.run (ops ++ later) = (s.run ops).run later :=
  List.foldl_append

theorem ordered_empty : (⟨[], 0⟩ : Store Q).Ordered :=
  Reachable.empty.ordered

end Store

open Store in
/-- Over every history of a store the numbers of the clauses increase, all that was ever stored has
the numbers from zero on in order, and two calls never give the same number. A number that a call
gave stands for the clause of that call until this is dropped; afterwards it stands for nothing and
removing it changes nothing. Removing a number keeps all other clauses as they are. -/
theorem numbers_over_history (ops : List (Operation Q)) :
    let start : Store Q := ⟨[], 0⟩
    let s := start.run ops
    s.Ordered ∧
    (start.stored ops).map (·.id) = List.range s.nextId ∧
    (∀ before op between op' later e e', ops = before ++ op :: (between ++ op' :: later) →
      op.entry? (start.run before) = some e →
      op'.entry? (start.run (before ++ op :: between)) = some e' → e.id ≠ e'.id) ∧
    (∀ before op later e, ops = before ++ op :: later →
      op.entry? (start.run before) = some e →
      (¬(start.run (before ++ [op])).Dropped e later → s.find? e.id = some e.clause) ∧
      ((start.run (before ++ [op])).Dropped e later → s.find? e.id = none ∧ s.erase e.id = s)) ∧
    ∀ id, (s.erase id).entries = s.entries.filter (·.id != id) ∧
      (s.erase id).nextId = s.nextId := by
  intro start s
  have hs : s.Ordered := ordered_empty.run ops
  refine ⟨hs, ?_, ?_, ?_, fun id => ⟨hs.entries_erase id, rfl⟩⟩
  · rw [ordered_empty.map_id_stored ops, List.range_eq_range']
    rfl
  · rintro before op between op' later e e' - he he'
    rw [run_append] at he'
    exact (ordered_empty.run before).id_ne_of_entry he he'
  · rintro before op later e rfl he
    have hsplit : s = (start.run (before ++ [op])).run later := by
      rw [← run_append, List.append_assoc]
      rfl
    have hmem : e ∈ (start.run (before ++ [op])).entries := by
      rw [run_append]
      exact (mem_of_entry he).1
    rw [hsplit]
    exact (ordered_empty.run (before ++ [op])).find_run hmem later

open Store in
/-- A deep join that is expanded, after which its number is stale, and a source that stays. -/
theorem numbers_over_history_sample :
    let deep : Clause Query := .deepJoin { expression := "author" }
    let source : Clause Query := .from (.table "posts" none)
    let start : Store Query := ⟨[], 0⟩
    let ops : List (Operation Query) := [.add .deepJoin deep, .replace .from source, .expand {}]
    (start.run (ops.take 1)).Dropped ⟨0, .deepJoin, deep⟩ (ops.drop 1) ∧
      ¬(start.run (ops.take 2)).Dropped ⟨1, .from, source⟩ (ops.drop 2) ∧
      (start.run ops).nextId = 3 ∧ (start.run ops).Ordered ∧
      (start.run ops).find? 0 = none ∧ (start.run ops).erase 0 = start.run ops ∧
      (start.run ops).find? 1 = some source ∧ 0 ≠ 1 := by
  intro deep source start ops
  have hclears : (start.run (ops.take 2)).Clears ⟨0, .deepJoin, deep⟩ := by
    constructor
    · intro clause hclause
      exact ⟨_, List.mem_singleton.mp hclause⟩
    · intro _ _ _ _ _
      exact Or.inr rfl
  have hdropped : (start.run (ops.take 1)).Dropped ⟨0, .deepJoin, deep⟩ (ops.drop 1) :=
    Or.inr (Or.inl ⟨rfl, hclears⟩)
  have hkept : ¬(start.run (ops.take 2)).Dropped ⟨1, .from, source⟩ (ops.drop 2) := by
    rintro (⟨hcomponent, _⟩ | hlater)
    · cases hcomponent
    · exact hlater
  obtain ⟨hordered, _, hdistinct, hlookup, _⟩ := numbers_over_history ops
  obtain ⟨hnone, herase⟩ := (hlookup [] _ _ ⟨0, .deepJoin, deep⟩ rfl rfl).2 hdropped
  have hsome := (hlookup [.add .deepJoin deep] _ _ ⟨1, .from, source⟩ rfl rfl).1 hkept
  have hne := hdistinct [] _ [] _ _ ⟨0, .deepJoin, deep⟩ ⟨1, .from, source⟩ rfl rfl rfl
  exact ⟨hdropped, hkept, rfl, hordered, hnone, herase, hsome, hne⟩

end SqlSelect
