import SqlSelect.Proofs.Histories
import SqlSelect.Proofs.Posting

/-!
# What a failed expansion leaves

Expansion fails in two ways. A clause of another kind under the component of deep joins is found
before anything is changed. A deep join that needs a root and has none is found on the way, when
those before it are gone; but the root is the same for all of them, so those before it needed none
and have added no join.
-/

namespace SqlSelect

variable {Q : Type}

namespace Store

/-- The deep joins cannot be read exactly when a clause of another kind is among them, and the first
of these is named. -/
theorem deepJoins_eq_error_iff (s : Store Q) (e : CompileError) :
    s.deepJoins = .error e ↔ ∃ clause, s.misplaced? .deepJoin = some clause ∧
      e = .invalidClause Component.deepJoin.name clause.kind.name := by
  have hmap := s.deepJoins_eq_getStrict
  cases hs : s.misplaced? .deepJoin with
  | none =>
    obtain ⟨payloads, _, hok⟩ := getStrict_eq_ok .deepJoin hs
    rw [hok] at hmap
    cases hd : s.deepJoins with
    | ok triggers => simp
    | error e' =>
      rw [hd] at hmap
      cases hmap
  | some clause =>
    rw [getStrict_eq_error .deepJoin hs] at hmap
    cases hd : s.deepJoins with
    | ok triggers =>
      rw [hd] at hmap
      cases hmap
    | error e' =>
      rw [hd] at hmap
      cases hmap
      simp [eq_comm]

/-- An ordered store is known by the entries that are in it. -/
theorem Ordered.entries_eq {s s' : Store Q} (h : s.Ordered) (h' : s'.Ordered)
    (hmem : ∀ e, e ∈ s.entries ↔ e ∈ s'.entries) : s.entries = s'.entries := by
  have hnodup : ∀ {s : Store Q}, s.Ordered → s.entries.Nodup := by
    intro s hs
    refine hs.increasing.imp ?_
    rintro e e' hlt rfl
    exact Nat.lt_irrefl _ hlt
  refine List.Perm.eq_of_pairwise ?_ h.increasing h'.increasing
    ((List.perm_ext_iff_of_nodup (hnodup h) (hnodup h')).mpr hmem)
  intro e e' _ _ hlt hgt
  omega

/-- A deep join is left, or an entry is outside deep joins, when its number is not among those that
are done. -/
theorem Ordered.mem_left_iff {s : Store Q} {more left : List (Nat × DeepJoin)} (h : s.Ordered)
    (hs : s.deepJoins = .ok (more ++ left)) (e : Entry Q) :
    e ∈ left.map DeepJoin.entry ∨ e ∈ s.entriesBesides .deepJoin ↔
      e ∈ s.entries ∧ e.id ∉ more.map (·.1) := by
  have hof : s.entriesOf .deepJoin = more.map DeepJoin.entry ++ left.map DeepJoin.entry := by
    rw [(s.deepJoins_eq_ok_iff _).mp hs, List.map_append]
  have hlater := (h.pairwise_triggers hs).2
  rw [mem_entries_iff s .deepJoin, hof, List.mem_append]
  constructor
  · rintro (hleft | hbesides)
    · refine ⟨Or.inl (Or.inr hleft), fun hid => ?_⟩
      obtain ⟨t, ht, hid⟩ := List.mem_map.mp hid
      have hlt := hlater _ (List.mem_map_of_mem ht) e hleft
      exact absurd hid (Nat.ne_of_lt hlt)
    · refine ⟨Or.inr hbesides, fun hid => ?_⟩
      obtain ⟨t, ht, hid⟩ := List.mem_map.mp hid
      have hmem : DeepJoin.entry t ∈ s.entriesOf .deepJoin := by
        rw [hof]
        exact List.mem_append_left _ (List.mem_map_of_mem ht)
      obtain ⟨he, hcomponent⟩ := List.mem_filter.mp hbesides
      obtain rfl := h.eq_of_id_eq (mem_entriesOf.mp hmem).1 he hid
      simp [DeepJoin.entry] at hcomponent
  · rintro ⟨(hmore | hleft) | hbesides, hid⟩
    · obtain ⟨t, ht, rfl⟩ := List.mem_map.mp hmore
      exact absurd (List.mem_map_of_mem ht) hid
    · exact Or.inl hleft
    · exact Or.inr hbesides

end Store

namespace Expander

variable {x : Expander} {s s' : Store Q} {more left : List (Nat × DeepJoin)}

/-- Without a root, the deep joins that are done have left no join behind. -/
theorem Progress.joins_eq_nil (hp : x.Progress s s' (more.map (·.2)) left)
    (hroot : s.rootName? = none) :
    (∀ t ∈ more, t.2.segments = []) ∧
      (more.map (·.2)).flatMap (x.joins (Q := Q) s.rootName?) = [] := by
  have hempty : ∀ d ∈ more.map (·.2), d.segments = [] := by
    intro d hd
    refine (hp.rooted d hd).resolve_right ?_
    simp [hroot]
  refine ⟨fun t ht => hempty t.2 (List.mem_map_of_mem ht), ?_⟩
  rw [List.flatMap_eq_nil_iff]
  intro d hd
  rw [joins, hempty d hd]
  rfl

/-- Then the store has lost the deep joins that are done and is otherwise the same. -/
theorem Progress.store_eq_filter (hp : x.Progress s s' (more.map (·.2)) left) (h : s.Ordered)
    (hs : s.deepJoins = .ok (more ++ left)) (hroot : s.rootName? = none) :
    s' = ⟨s.entries.filter (·.id ∉ more.map (·.1)), s.nextId⟩ := by
  obtain ⟨_, hjoins⟩ := hp.joins_eq_nil hroot
  have hnext : s'.nextId = s.nextId := by rw [hp.nextId_eq, hjoins, List.length_nil, Nat.add_zero]
  have hentries : s'.entries = s.entries.filter (·.id ∉ more.map (·.1)) := by
    refine hp.ordered.entries_eq (h.sublist List.filter_sublist) fun e => ?_
    have hnone : e ∉ Store.joinEntries s.nextId ([] : List (Join Q)) := List.not_mem_nil
    rw [Store.mem_of_progress hp, hjoins, or_iff_left hnone, List.mem_filter, decide_eq_true_iff,
      h.mem_left_iff hs]
  rw [← hentries, ← hnext]

/-- The two ways in which expansion fails, with the store that it leaves. -/
theorem failure_cases (h : s.Ordered) {e : CompileError}
    (hfailure : (x.expand s).failure? = some e) :
    (∃ clause, s.misplaced? .deepJoin = some clause ∧
      e = .invalidClause Component.deepJoin.name clause.kind.name ∧ (x.expand s).store = s) ∨
    ∃ before id d after, s.deepJoins = .ok (before ++ (id, d) :: after) ∧
      (∀ t ∈ before, t.2.segments = []) ∧ d.segments ≠ [] ∧ e = .missingRoot d.expression ∧
      (x.expand s).store = ⟨s.entries.filter (·.id ∉ before.map (·.1)), s.nextId⟩ := by
  cases hs : s.deepJoins with
  | error error =>
    rw [expand, hs] at hfailure
    cases hfailure
    obtain ⟨clause, hclause, he⟩ := (s.deepJoins_eq_error_iff e).mp hs
    exact Or.inl ⟨clause, hclause, he, by rw [expand, hs]⟩
  | ok triggers =>
    obtain ⟨before, left, rfl, hp, hhalts⟩ := expand_progress (x := x) h hs
    rw [hfailure] at hhalts
    cases hhalts with
    | @failed id d after _ herror =>
      obtain ⟨hok, _⟩ | ⟨hmissing, hsegments, hroot⟩ := x.chain_cases s d
      · rw [hok] at herror
        cases herror
      · rw [hmissing] at herror
        cases herror
        exact Or.inr ⟨before, id, d, after, rfl, (hp.joins_eq_nil hroot).1, hsegments, rfl,
          hp.store_eq_filter h hs hroot⟩

end Expander

/-- If expansion fails on a clause of another kind, the query is unchanged and the error names the
first such clause. If it fails for want of a root, the error names the first deep join with a
segment, and the query has lost the deep joins before that one and nothing else: no join is added.
There is no other failure. -/
theorem failed_expansion_exact (x : Expander) {q : Query} (h : q.clauses.Reachable) :
    (∀ component found,
      (x.expand q.clauses).failure? = some (.invalidClause component found) →
        q.expand x = q ∧ component = Component.deepJoin.name ∧
        ∃ clause, (q.clauses.clauses .deepJoin).find? (·.kind != .deepJoin) = some clause ∧
          found = clause.kind.name) ∧
    (∀ expression, (x.expand q.clauses).failure? = some (.missingRoot expression) →
      ∃ before id d after,
        q.clauses.entriesOf .deepJoin = (before ++ (id, d) :: after).map DeepJoin.entry ∧
        (∀ t ∈ before, t.2.segments = []) ∧ d.segments ≠ [] ∧ expression = d.expression ∧
        q.expand x = ⟨⟨q.clauses.entries.filter (·.id ∉ before.map (·.1)), q.clauses.nextId⟩,
          q.isDistinct⟩) ∧
    ∀ e, (x.expand q.clauses).failure? = some e →
      (∃ component found, e = .invalidClause component found) ∨
        ∃ expression, e = .missingRoot expression := by
  have hcases := fun e => Expander.failure_cases (x := x) (e := e) h.ordered
  refine ⟨fun component found hfailure => ?_, fun expression hfailure => ?_, fun e hfailure => ?_⟩
  · obtain ⟨clause, hclause, he, hstore⟩ | ⟨_, _, _, _, _, _, _, he, _⟩ := hcases _ hfailure
    · cases he
      refine ⟨?_, rfl, clause, hclause, rfl⟩
      obtain ⟨clauses, isDistinct⟩ := q
      exact congrArg (Query.mk · isDistinct) hstore
    · cases he
  · obtain ⟨_, _, he, _⟩ | ⟨before, id, d, after, hs, hbefore, hsegments, he, hstore⟩ :=
      hcases _ hfailure
    · cases he
    · cases he
      exact ⟨before, id, d, after, (q.clauses.deepJoins_eq_ok_iff _).mp hs, hbefore, hsegments,
        rfl, congrArg (Query.mk · q.isDistinct) hstore⟩
  · obtain ⟨_, _, he, _⟩ | ⟨_, _, _, _, _, _, _, he, _⟩ := hcases _ hfailure
    · exact Or.inl ⟨_, _, he⟩
    · exact Or.inr ⟨_, he⟩

/-- A deep join without segments, a condition, two deep joins with segments, and no source. -/
def Query.rootless : Query :=
  (((Query.empty.deepJoin " . ").filter "id" ">" (.int 3)).deepJoin "author").deepJoin "tags"

/-- The same query with a condition in place of a deep join. -/
def Query.misplacedSample : Query :=
  { Query.rootless with
    clauses := Query.rootless.clauses.add .deepJoin (.where (.ofPredicate (.isNull "id"))) }

theorem failed_expansion_exact_sample :
    Query.rootless.clauses.Reachable ∧
    (Expander.expand {} Query.rootless.clauses).failure? = some (.missingRoot "author") ∧
    (∃ before id d after,
      Query.rootless.clauses.entriesOf .deepJoin =
        (before ++ (id, d) :: after).map DeepJoin.entry ∧
      (∀ t ∈ before, t.2.segments = []) ∧ d.segments ≠ [] ∧ "author" = d.expression ∧
      Query.rootless.expand {} =
        ⟨⟨Query.rootless.clauses.entries.filter (·.id ∉ before.map (·.1)), 4⟩, false⟩) ∧
    (Query.rootless.expand {}).clauses.size = 3 ∧
    (Expander.expand {} Query.misplacedSample.clauses).failure? =
      some (.invalidClause "deep_join" "where") ∧
    Query.misplacedSample.expand {} = Query.misplacedSample := by
  have h : Query.rootless.clauses.Reachable :=
    .add _ _ (.add _ _ (.add _ _ (.add _ _ .empty)))
  have hmissing : (Expander.expand {} Query.rootless.clauses).failure? =
      some (.missingRoot "author") := rfl
  have hmisplaced : (Expander.expand {} Query.misplacedSample.clauses).failure? =
      some (.invalidClause "deep_join" "where") := rfl
  refine ⟨h, hmissing, (failed_expansion_exact {} h).2.1 _ hmissing, rfl, hmisplaced, ?_⟩
  exact ((failed_expansion_exact {} (.add _ _ h)).1 _ _ hmisplaced).1

end SqlSelect
