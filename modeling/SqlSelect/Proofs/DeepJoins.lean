import SqlSelect.Proofs.Expansion
import SqlSelect.Proofs.Reachability
import Mathlib.Data.List.Forall2
import Mathlib.Data.Set.List

/-!
# What expansion does

Expansion works through the deep joins of a store one by one: it appends the joins of a path and
drops the deep join, in the store from which it also reads the root of the next path. `Progress`
says what that store is at any time, given the deep joins that are done and those that are left; a
step keeps it, so a run does, up to its end or to the first deep join that needs a root and has
none.

The joins of a path are described by position: `DeepJoin.IsChain` says what the k-th join is, and
`DeepJoin.KeysFor` where its keys come from.
-/

namespace SqlSelect

variable {Q : Type}

namespace Store

/-- The entries outside a component in insertion order. -/
def entriesBesides (s : Store Q) (component : Component) : List (Entry Q) :=
  s.entries.filter (·.component != component)

theorem mem_entriesOf {s : Store Q} {component : Component} {e : Entry Q} :
    e ∈ s.entriesOf component ↔ e ∈ s.entries ∧ e.component = component := by
  simp [entriesOf]

/-- Joins as entries with consecutive numbers. -/
def joinEntries (first : Nat) (joins : List (Join Q)) : List (Entry Q) :=
  joins.mapIdx fun k join => ⟨first + k, .join, .join join⟩

theorem joinEntries_append (first : Nat) (js ks : List (Join Q)) :
    joinEntries first (js ++ ks) = joinEntries first js ++ joinEntries (first + js.length) ks := by
  rw [joinEntries, List.mapIdx_append]
  congr 2
  funext k join
  rw [Nat.add_assoc, Nat.add_comm js.length k]

theorem component_of_mem_joinEntries {first : Nat} {joins : List (Join Q)} {e : Entry Q}
    (h : e ∈ joinEntries first joins) : e.component = .join := by
  obtain ⟨k, _, rfl⟩ := List.mem_mapIdx.mp h
  rfl

theorem filter_joinEntries_of_ne {component : Component} (h : component ≠ .join) (first : Nat)
    (joins : List (Join Q)) :
    (joinEntries first joins).filter (·.component == component) = [] := by
  rw [List.filter_eq_nil_iff]
  intro e he
  simp [component_of_mem_joinEntries he, h.symm]

/-- A component other than the one left out is found among the entries that are kept. -/
theorem entriesOf_of_ne (s : Store Q) {component besides : Component} (h : component ≠ besides) :
    s.entriesOf component = (s.entriesBesides besides).filter (·.component == component) := by
  rw [entriesOf, entriesBesides, List.filter_filter]
  apply List.filter_congr
  intro e _
  by_cases he : e.component = component
  · simp [he, h]
  · simp [he]

/-- With no entry under a component, every entry is outside it. -/
theorem entriesBesides_of_entriesOf_eq_nil {s : Store Q} {component : Component}
    (h : s.entriesOf component = []) : s.entriesBesides component = s.entries := by
  rw [entriesBesides, List.filter_eq_self]
  intro e he
  have hne := List.filter_eq_nil_iff.mp h e he
  simpa using hne

theorem addChain_eq (s : Store Q) (kind : JoinKind) (links : List Link) :
    s.addChain kind links =
      ⟨s.entries ++ joinEntries s.nextId (links.map (Link.toJoin kind)),
        s.nextId + links.length⟩ := by
  induction links generalizing s with
  | nil => simp [addChain, joinEntries]
  | cons link links ih =>
    have hstep : s.addChain kind (link :: links) =
        (s.add .join (.join (link.toJoin kind))).addChain kind links := rfl
    have hone : joinEntries s.nextId [link.toJoin (Q := Q) kind] =
        [⟨s.nextId, .join, .join (link.toJoin kind)⟩] := rfl
    rw [hstep, ih, List.map_cons, ← List.singleton_append, joinEntries_append, hone, add]
    simp [Nat.add_assoc, Nat.add_comm 1]

theorem Ordered.addChain {s : Store Q} (h : s.Ordered) (kind : JoinKind) (links : List Link) :
    (s.addChain kind links).Ordered := by
  induction links generalizing s with
  | nil => exact h
  | cons link links ih => exact ih (h.add .join _)

theorem entriesOf_addChain (s : Store Q) (kind : JoinKind) (links : List Link)
    {component : Component} (h : component ≠ .join) :
    (s.addChain kind links).entriesOf component = s.entriesOf component := by
  rw [addChain_eq, entriesOf, entriesOf, List.filter_append, filter_joinEntries_of_ne h,
    List.append_nil]

theorem entriesBesides_addChain (s : Store Q) (kind : JoinKind) (links : List Link)
    {component : Component} (h : component ≠ .join) :
    (s.addChain kind links).entriesBesides component =
      s.entriesBesides component ++ joinEntries s.nextId (links.map (Link.toJoin kind)) := by
  rw [addChain_eq, entriesBesides, entriesBesides, List.filter_append, List.append_cancel_left_eq,
    List.filter_eq_self]
  intro e he
  simp [component_of_mem_joinEntries he, h.symm]

/-- Erasing the first entry of a component leaves the others. -/
theorem Ordered.entriesOf_erase {s : Store Q} (h : s.Ordered) {component : Component}
    {e : Entry Q} {es : List (Entry Q)} (hs : s.entriesOf component = e :: es) :
    (s.erase e.id).entriesOf component = es := by
  have hincreasing : (s.entriesOf component).Pairwise (·.id < ·.id) := h.increasing.filter _
  rw [hs, List.pairwise_cons] at hincreasing
  have hcommute : (s.erase e.id).entriesOf component =
      (s.entriesOf component).filter (·.id != e.id) := by
    rw [entriesOf, h.entries_erase, List.filter_filter, entriesOf, List.filter_filter]
    simp only [Bool.and_comm]
  rw [hcommute, hs, List.filter_cons_of_neg (by simp), List.filter_eq_self]
  intro e' he'
  have hlt := hincreasing.1 e' he'
  rw [bne_iff_ne]
  omega

/-- Erasing an entry keeps all those outside its component. -/
theorem Ordered.entriesBesides_erase {s : Store Q} (h : s.Ordered) {e : Entry Q}
    (he : e ∈ s.entries) :
    (s.erase e.id).entriesBesides e.component = s.entriesBesides e.component := by
  rw [entriesBesides, h.entries_erase, List.filter_filter, entriesBesides]
  apply List.filter_congr
  intro e' he'
  by_cases hid : e'.id = e.id
  · simp [h.eq_of_id_eq he' he hid]
  · simp [hid]

end Store

/-! ## The deep joins of a store -/

/-- A checked list: every item has passed, in order. -/
theorem mapM_eq_ok_iff {α β ε : Type} {f : α → Except ε β} {xs : List α} {ys : List β} :
    xs.mapM f = .ok ys ↔ List.Forall₂ (fun x y => f x = .ok y) xs ys := by
  induction xs generalizing ys with
  | nil =>
    rw [List.mapM_nil, List.forall₂_nil_left_iff]
    exact ⟨fun h => (Except.ok.inj h).symm, fun h => congrArg Except.ok h.symm⟩
  | cons x xs ih =>
    rw [List.mapM_cons, List.forall₂_cons_left_iff]
    constructor
    · intro h
      cases hx : f x with
      | error e =>
        rw [hx] at h
        cases h
      | ok y =>
        cases hxs : xs.mapM f with
        | error e =>
          rw [hx, hxs] at h
          cases h
        | ok ys' =>
          rw [hx, hxs] at h
          exact ⟨y, ys', rfl, ih.mp hxs, (Except.ok.inj h).symm⟩
    · rintro ⟨y, ys', hy, hys, rfl⟩
      rw [hy, ih.mpr hys]
      rfl

/-- A deep join in its place. -/
def DeepJoin.entry (t : Nat × DeepJoin) : Entry Q :=
  ⟨t.1, .deepJoin, .deepJoin t.2⟩

namespace Store

/-- The deep joins can be read when there is nothing else under their component. -/
theorem deepJoins_eq_ok_iff (s : Store Q) (triggers : List (Nat × DeepJoin)) :
    s.deepJoins = .ok triggers ↔ s.entriesOf .deepJoin = triggers.map DeepJoin.entry := by
  have hcomponent : ∀ e ∈ s.entriesOf .deepJoin, e.component = .deepJoin :=
    fun e he => (mem_entriesOf.mp he).2
  rw [deepJoins, mapM_eq_ok_iff, ← List.forall₂_eq_eq_eq, List.forall₂_map_right_iff,
    ← and_iff_right (b := List.Forall₂ _ _ _) hcomponent, ← List.forall₂_and_left]
  refine iff_of_eq (congrArg (List.Forall₂ · _ _) ?_)
  funext e t
  obtain ⟨id, component, clause⟩ := e
  obtain ⟨id', d⟩ := t
  cases clause <;> simp [Clause.deepJoin?, DeepJoin.entry, and_left_comm]

theorem get_deepJoin_of_deepJoins {s : Store Q} {triggers : List (Nat × DeepJoin)}
    (h : s.deepJoins = .ok triggers) :
    s.get Clause.deepJoin? .deepJoin = triggers.map (·.2) := by
  rw [get, clauses, (deepJoins_eq_ok_iff s triggers).mp h, List.map_map, List.filterMap_map]
  exact List.filterMap_eq_map_iff_forall_eq_some.mpr fun _ _ => rfl

/-- Every clause under the component of deep joins is one, and there is a named source unless no
path has a segment. -/
structure Expandable (s : Store Q) : Prop where
  placed : ∀ clause ∈ s.clauses .deepJoin, ∃ d, clause = .deepJoin d
  rooted : (∀ d ∈ s.get Clause.deepJoin? .deepJoin, d.segments = []) ∨
    ∃ source, s.getFirst? Clause.source? .from = some source ∧ source.name? ≠ none

theorem exists_deepJoins {s : Store Q}
    (h : ∀ clause ∈ s.clauses .deepJoin, ∃ d, clause = .deepJoin d) :
    ∃ triggers, s.deepJoins = .ok triggers := by
  have hrange : s.entriesOf .deepJoin ∈ Set.range (List.map DeepJoin.entry) := by
    rw [Set.range_list_map]
    intro e he
    obtain ⟨d, hd⟩ := h e.clause (List.mem_map_of_mem he)
    have hcomponent : e.component = .deepJoin := (mem_entriesOf.mp he).2
    refine ⟨(e.id, d), ?_⟩
    rw [DeepJoin.entry, ← hcomponent, ← hd]
  obtain ⟨triggers, htriggers⟩ := hrange
  exact ⟨triggers, (deepJoins_eq_ok_iff s triggers).mpr htriggers.symm⟩

theorem isSome_rootName_iff (s : Store Q) :
    s.rootName?.isSome = true ↔
      ∃ source, s.getFirst? Clause.source? .from = some source ∧ source.name? ≠ none := by
  rw [rootName?]
  cases s.getFirst? Clause.source? .from with
  | none => simp
  | some source => simp [Option.isSome_iff_ne_none]

end Store

/-! ## The joins of a path -/

namespace Expander

variable (x : Expander)

/-- The joins that a deep join stands for on a query over `root?`. -/
def joins (root? : Option String) (d : DeepJoin) : List (Join Q) :=
  (x.links d (root?.getD "") d.segments).map (Link.toJoin d.kind)

/-- A chain is made unless it needs a root and there is none. -/
theorem chain_cases (s : Store Q) (d : DeepJoin) :
    (x.chain s d = .ok (x.links d (s.rootName?.getD "") d.segments) ∧
      (d.segments = [] ∨ s.rootName?.isSome = true)) ∨
    (x.chain s d = .error (.missingRoot d.expression) ∧ d.segments ≠ [] ∧ s.rootName? = none) := by
  rw [chain]
  cases hsegments : d.segments with
  | nil => exact Or.inl ⟨rfl, Or.inl rfl⟩
  | cons segment segments =>
    cases hroot : s.rootName? with
    | none => exact Or.inr ⟨rfl, List.cons_ne_nil _ _, rfl⟩
    | some root => exact Or.inl ⟨rfl, Or.inr rfl⟩

theorem chain_congr {s s' : Store Q} (h : s'.rootName? = s.rootName?) (d : DeepJoin) :
    x.chain s' d = x.chain s d := by
  rw [chain, chain, h]

/-! ## Expansion step by step -/

/-- `s'` is the store `s` with the deep joins `done` expanded and those of `rest` still there. -/
structure Progress (s s' : Store Q) (done : List DeepJoin) (rest : List (Nat × DeepJoin)) :
    Prop where
  ordered : s'.Ordered
  pending : s'.entriesOf .deepJoin = rest.map DeepJoin.entry
  besides : s'.entriesBesides .deepJoin = s.entriesBesides .deepJoin ++
    Store.joinEntries s.nextId (done.flatMap (x.joins s.rootName?))
  nextId_eq : s'.nextId = s.nextId + (done.flatMap (x.joins (Q := Q) s.rootName?)).length
  rooted : ∀ d ∈ done, d.segments = [] ∨ s.rootName?.isSome = true

/-- How a run ends: with nothing left, or at a deep join that has no chain. -/
inductive Halts (s : Store Q) : List (Nat × DeepJoin) → Option CompileError → Prop
  | finished : Halts s [] none
  | failed {id : Nat} {d : DeepJoin} {rest : List (Nat × DeepJoin)} {e : CompileError} :
      x.chain s d = .error e → Halts s ((id, d) :: rest) (some e)

namespace Progress

variable {x} {s s' : Store Q} {done : List DeepJoin} {rest : List (Nat × DeepJoin)}

theorem start (h : s.Ordered) (hs : s.deepJoins = .ok rest) : x.Progress s s [] rest where
  ordered := h
  pending := (s.deepJoins_eq_ok_iff rest).mp hs
  besides := (List.append_nil _).symm
  nextId_eq := rfl
  rooted := fun _ hd => absurd hd List.not_mem_nil

/-- Components other than joins and deep joins are as they were. -/
theorem entriesOf_eq (hp : x.Progress s s' done rest) {component : Component}
    (hdeep : component ≠ .deepJoin) (hjoin : component ≠ .join) :
    s'.entriesOf component = s.entriesOf component := by
  rw [s'.entriesOf_of_ne hdeep, s.entriesOf_of_ne hdeep, hp.besides, List.filter_append,
    Store.filter_joinEntries_of_ne hjoin, List.append_nil]

theorem rootName_eq (hp : x.Progress s s' done rest) : s'.rootName? = s.rootName? := by
  rw [Store.rootName?, Store.getFirst?, Store.clauses, hp.entriesOf_eq (by decide) (by decide)]
  rfl

theorem step {id : Nat} {d : DeepJoin} {links : List Link}
    (hp : x.Progress s s' done ((id, d) :: rest)) (hchain : x.chain s' d = .ok links) :
    x.Progress s ((s'.addChain d.kind links).erase id) (done ++ [d]) rest := by
  rw [x.chain_congr hp.rootName_eq] at hchain
  obtain ⟨hlinks, hrooted⟩ | ⟨herror, _⟩ := x.chain_cases s d
  · rw [hlinks] at hchain
    cases hchain
    set links := x.links d (s.rootName?.getD "") d.segments
    have hordered := hp.ordered.addChain d.kind links
    have hpending : (s'.addChain d.kind links).entriesOf .deepJoin =
        DeepJoin.entry (id, d) :: rest.map DeepJoin.entry := by
      rw [Store.entriesOf_addChain s' d.kind links (by decide)]
      exact hp.pending
    have hmem : DeepJoin.entry (id, d) ∈ (s'.addChain d.kind links).entries :=
      List.mem_of_mem_filter (hpending ▸ List.mem_cons_self)
    have hjoins : (done ++ [d]).flatMap (x.joins (Q := Q) s.rootName?) =
        done.flatMap (x.joins s.rootName?) ++ links.map (Link.toJoin d.kind) := by
      rw [List.flatMap_append, List.flatMap_singleton]
      rfl
    constructor
    · exact hordered.erase id
    · exact hordered.entriesOf_erase hpending
    · rw [hjoins, Store.joinEntries_append, ← hp.nextId_eq, ← List.append_assoc, ← hp.besides,
        ← Store.entriesBesides_addChain s' d.kind links (by decide)]
      exact hordered.entriesBesides_erase hmem
    · rw [hjoins, List.length_append, ← Nat.add_assoc, ← hp.nextId_eq, List.length_map,
        Store.addChain_eq]
      rfl
    · intro d' hd'
      rcases List.mem_append.mp hd' with hd' | hd'
      · exact hp.rooted d' hd'
      · rw [List.mem_singleton.mp hd']
        exact hrooted
  · rw [herror] at hchain
    cases hchain

/-- A run passes deep joins from those that are left to those that are done. -/
theorem run (hp : x.Progress s s' done rest) :
    ∃ more left, rest = more ++ left ∧
      x.Progress s (x.expandEach s' rest).store (done ++ more.map (·.2)) left ∧
      x.Halts s left (x.expandEach s' rest).failure? := by
  induction rest generalizing s' done with
  | nil => exact ⟨[], [], rfl, by simpa [Expander.expandEach] using hp, .finished⟩
  | cons t rest ih =>
    obtain ⟨id, d⟩ := t
    rw [Expander.expandEach]
    cases hchain : x.chain s' d with
    | error e =>
      refine ⟨[], (id, d) :: rest, rfl, by simpa using hp, .failed ?_⟩
      rw [← x.chain_congr hp.rootName_eq, hchain]
    | ok links =>
      obtain ⟨more, left, hrest, hprogress, hhalts⟩ := ih (hp.step hchain)
      refine ⟨(id, d) :: more, left, congrArg _ hrest, ?_, hhalts⟩
      rw [List.append_assoc] at hprogress
      exact hprogress

/-- With no deep join left, the store is known. -/
theorem store_eq (hp : x.Progress s s' done []) :
    s' = ⟨s.entriesBesides .deepJoin ++
        Store.joinEntries s.nextId (done.flatMap (x.joins s.rootName?)),
      s.nextId + (done.flatMap (x.joins (Q := Q) s.rootName?)).length⟩ := by
  rw [← hp.besides, Store.entriesBesides_of_entriesOf_eq_nil hp.pending, ← hp.nextId_eq]

end Progress

variable {x} {s : Store Q}

theorem expand_progress (h : s.Ordered) {triggers : List (Nat × DeepJoin)}
    (hs : s.deepJoins = .ok triggers) :
    ∃ more left, triggers = more ++ left ∧
      x.Progress s (x.expand s).store (more.map (·.2)) left ∧
      x.Halts s left (x.expand s).failure? := by
  have hexpand : x.expand s = x.expandEach s triggers := by rw [expand, hs]
  rw [hexpand]
  exact (Progress.start h hs).run

theorem failure_eq_none_iff (h : s.Ordered) :
    (x.expand s).failure? = none ↔ s.Expandable := by
  constructor
  · intro hnone
    cases hs : s.deepJoins with
    | error e =>
      rw [expand, hs] at hnone
      cases hnone
    | ok triggers =>
      obtain ⟨more, left, rfl, hp, hhalts⟩ := expand_progress (x := x) h hs
      rw [hnone] at hhalts
      cases hhalts
      have hentries := (s.deepJoins_eq_ok_iff _).mp hs
      constructor
      · intro clause hclause
        rw [Store.clauses, hentries, List.map_map] at hclause
        obtain ⟨t, _, rfl⟩ := List.mem_map.mp hclause
        exact ⟨t.2, rfl⟩
      · by_cases hroot : s.rootName?.isSome = true
        · exact Or.inr (s.isSome_rootName_iff.mp hroot)
        · refine Or.inl fun d hd => ?_
          rw [Store.get_deepJoin_of_deepJoins hs, List.append_nil] at hd
          exact (hp.rooted d hd).resolve_right hroot
  · intro hexpandable
    obtain ⟨triggers, hs⟩ := Store.exists_deepJoins hexpandable.placed
    obtain ⟨more, left, rfl, hp, hhalts⟩ := expand_progress (x := x) h hs
    generalize (x.expand s).failure? = failure? at hhalts
    cases hhalts with
    | finished => rfl
    | @failed id d rest e herror =>
      obtain ⟨hok, _⟩ | ⟨_, hsegments, hroot⟩ := x.chain_cases s d
      · rw [hok] at herror
        cases herror
      · rcases hexpandable.rooted with hempty | hsource
        · refine absurd (hempty d ?_) hsegments
          rw [Store.get_deepJoin_of_deepJoins hs]
          simp
        · have hsome := s.isSome_rootName_iff.mpr hsource
          rw [hroot] at hsome
          cases hsome

/-- What a run that does not fail has done. -/
theorem progress_of_failure_eq_none (h : s.Ordered) (hnone : (x.expand s).failure? = none) :
    x.Progress s (x.expand s).store (s.get Clause.deepJoin? .deepJoin) [] := by
  obtain ⟨triggers, hs⟩ := Store.exists_deepJoins ((failure_eq_none_iff h).mp hnone).placed
  obtain ⟨more, left, rfl, hp, hhalts⟩ := expand_progress (x := x) h hs
  rw [hnone] at hhalts
  cases hhalts
  rw [Store.get_deepJoin_of_deepJoins hs, List.append_nil]
  exact hp

/-- Expanding what is left does nothing more: it ends at once and in the same way. -/
theorem expand_expand (h : s.Ordered) :
    x.expand (x.expand s).store = ⟨(x.expand s).store, [], (x.expand s).failure?⟩ := by
  cases hs : s.deepJoins with
  | error e =>
    have hexpand : x.expand s = ⟨s, [], some e⟩ := by rw [expand, hs]
    rw [hexpand, hexpand]
  | ok triggers =>
    obtain ⟨more, left, _, hp, hhalts⟩ := expand_progress (x := x) h hs
    have hleft := ((x.expand s).store.deepJoins_eq_ok_iff left).mpr hp.pending
    have hroot := hp.rootName_eq
    generalize (x.expand s).store = s' at hleft hroot
    rw [expand, hleft]
    generalize (x.expand s).failure? = failure? at hhalts
    cases hhalts with
    | finished => rfl
    | failed herror =>
      rw [← x.chain_congr hroot] at herror
      simp only [expandEach, herror]

end Expander

/-! ## Joins by position -/

/-- Where the keys of a step to `target` come from: the generators if there is one for the source
side, and otherwise the singular of the target with a suffix, and the name of the target key. What
the deep join does not set is taken from the settings. -/
structure DeepJoin.KeysFor (x : Expander) (d : DeepJoin) (target sourceKey targetKey : String) :
    Prop where
  generated : ∀ g, d.sourceKey? = some g → sourceKey = g.generate target ∧
    targetKey = (d.targetKey?.map (·.generate target)).getD x.settings.targetKey
  inferred : d.sourceKey? = none →
    sourceKey = x.singular target ++ d.sourceKeySuffix?.getD x.settings.sourceKeySuffix ∧
    targetKey = d.targetKeyName?.getD x.settings.targetKey

theorem DeepJoin.keysFor_keys (x : Expander) (d : DeepJoin) (target : String) :
    d.KeysFor x target (x.keys d target).1 (x.keys d target).2 := by
  constructor
  · intro g hg
    rw [Expander.keys, hg]
    exact ⟨rfl, rfl⟩
  · intro hnone
    rw [Expander.keys, hnone]
    exact ⟨rfl, rfl⟩

/-- The joins of a path: one for each segment, on the equality of a key of the name before it, which
for the first segment is the root, and a key of the segment. -/
structure DeepJoin.IsChain (x : Expander) (root? : Option String) (d : DeepJoin)
    (joins : List (Join Q)) : Prop where
  length_eq : joins.length = d.segments.length
  join_eq : ∀ k target, d.segments[k]? = some target →
    ∃ source sourceKey targetKey,
      (if k = 0 then root? else d.segments[k - 1]?) = some source ∧
      d.KeysFor x target sourceKey targetKey ∧
      joins[k]? = some ⟨d.kind, .table target none,
        [⟨false, false, .compareColumns (source ++ "." ++ sourceKey) "="
          (target ++ "." ++ targetKey)⟩]⟩

namespace Expander

variable (x : Expander) (d : DeepJoin)

theorem length_links (source : String) (targets : List String) :
    (x.links d source targets).length = targets.length := by
  induction targets generalizing source with
  | nil => rfl
  | cons target targets ih => rw [links, List.length_cons, ih, List.length_cons]

theorem getElem?_links (source : String) {target : String} {targets : List String} {k : Nat}
    (h : targets[k]? = some target) :
    ∃ before, (source :: targets)[k]? = some before ∧
      (x.links d source targets)[k]? =
        some ⟨before, target, (x.keys d target).1, (x.keys d target).2⟩ := by
  induction targets generalizing source k with
  | nil => simp at h
  | cons first targets ih =>
    cases k with
    | zero =>
      cases h
      exact ⟨source, rfl, rfl⟩
    | succ k => exact ih first h

theorem isChain_joins {root? : Option String} (h : d.segments = [] ∨ root?.isSome = true) :
    d.IsChain x root? (x.joins (Q := Q) root? d) where
  length_eq := by rw [joins, List.length_map, length_links]
  join_eq := by
    intro k target htarget
    obtain ⟨source, hsource, hlink⟩ := x.getElem?_links d (root?.getD "") htarget
    refine ⟨source, _, _, ?_, d.keysFor_keys x target, ?_⟩
    · cases k with
      | succ k => exact hsource
      | zero =>
        rcases h with hempty | hsome
        · rw [hempty] at htarget
          cases htarget
        · obtain ⟨root, rfl⟩ := Option.isSome_iff_exists.mp hsome
          exact hsource
    · rw [joins, List.getElem?_map, hlink]
      rfl

end Expander

/-! ## The rewrite of a query -/

/-- The query with its own deep joins expanded; those of nested queries stay. -/
def Query.expand (x : Expander) (q : Query) : Query :=
  { q with clauses := (x.expand q.clauses).store }

/-- Expansion succeeds exactly when the deep joins are in their place and have a root if they need
one. Then all other clauses stay as they are, and after them come the joins of each path in order,
with the numbers from the next one on. -/
theorem expand_exact (x : Expander) {q : Query} (h : q.clauses.Reachable) :
    ((x.expand q.clauses).failure? = none ↔ q.clauses.Expandable) ∧
    ((x.expand q.clauses).failure? = none →
      ∃ chains : List (List (Join Query)),
        List.Forall₂ (fun d chain => d.IsChain x q.clauses.rootName? chain)
          (q.clauses.get Clause.deepJoin? .deepJoin) chains ∧
        q.expand x =
          ⟨⟨q.clauses.entries.filter (·.component != .deepJoin) ++
              Store.joinEntries q.clauses.nextId chains.flatten,
            q.clauses.nextId + chains.flatten.length⟩, q.isDistinct⟩) := by
  have hordered := h.ordered
  refine ⟨Expander.failure_eq_none_iff hordered, fun hnone => ?_⟩
  have hp := Expander.progress_of_failure_eq_none hordered hnone
  refine ⟨(q.clauses.get Clause.deepJoin? .deepJoin).map (x.joins q.clauses.rootName?), ?_, ?_⟩
  · rw [List.forall₂_map_right_iff, List.forall₂_same]
    exact fun d hd => x.isChain_joins d (hp.rooted d hd)
  · rw [Query.expand, hp.store_eq, List.flatMap_def]
    rfl

/-- Two deep joins with a condition between them. -/
def Query.deepSample : Query :=
  let posts := (Query.empty.fromTable "posts").deepJoin "author.companies"
  (posts.filter "id" ">" (.int 3)).deepJoinWith ⟨" tags .", .left, none, none, some "_id", none⟩

theorem expand_exact_sample :
    Query.deepSample.clauses.Reachable ∧
    (Expander.expand {} Query.deepSample.clauses).failure? = none ∧
    ∃ chains : List (List (Join Query)),
      List.Forall₂ (fun d chain => d.IsChain {} (some "posts") chain)
        (Query.deepSample.clauses.get Clause.deepJoin? .deepJoin) chains ∧
      Query.deepSample.expand {} =
        ⟨⟨Query.deepSample.clauses.entries.filter (·.component != .deepJoin) ++
            Store.joinEntries 4 chains.flatten, 4 + chains.flatten.length⟩, false⟩ := by
  have h : Query.deepSample.clauses.Reachable :=
    .add _ _ (.add _ _ (.add _ _ (.replace _ _ .empty)))
  have hnone : (Expander.expand {} Query.deepSample.clauses).failure? = none := rfl
  exact ⟨h, hnone, (expand_exact {} h).2 hnone⟩

end SqlSelect
