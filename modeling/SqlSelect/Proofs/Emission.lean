import SqlSelect.Emission
import Mathlib.Data.List.Forall2

/-!
# What an action emits

An action of `CompileM` never looks at the context it is run in: it appends values and events and
returns a text or an error, and all of these are the same in every context. `Emits m P` says this of
`m`, and that `P` holds of the result and the values of a run that succeeds. The rules below follow
the way actions are put together, so a property of a whole statement is proved from its parts.
-/

namespace SqlSelect

/-- What a run of an action returns and appends, whatever the context. -/
structure Emitted (α : Type) where
  outcome : Except CompileError α
  values : List Value := []
  events : List Event := []

/-- The action that returns and appends just this. -/
def Emitted.run {α : Type} (w : Emitted α) : CompileM α := fun ctx =>
  match w.outcome with
  | .ok a => .ok a ⟨ctx.bindings ++ w.values, ctx.events ++ w.events⟩
  | .error e => .error e ⟨ctx.bindings ++ w.values, ctx.events ++ w.events⟩

variable {α β : Type}

theorem append_assoc_list (xs : Array α) (as bs : List α) : xs ++ as ++ bs = xs ++ (as ++ bs) := by
  apply Array.ext'
  simp [List.append_assoc]

theorem append_nil_list (xs : Array α) : xs ++ ([] : List α) = xs := by
  apply Array.ext'
  simp

/-! ## The actions of a compilation -/

namespace Emitted

theorem run_pure (a : α) : (pure a : CompileM α) = run ⟨.ok a, [], []⟩ := by
  funext ctx
  simp only [run, append_nil_list]
  rfl

theorem run_throw (e : CompileError) : (throw e : CompileM α) = run ⟨.error e, [], []⟩ := by
  funext ctx
  simp only [run, append_nil_list]
  rfl

theorem run_bindValue (v : Value) : CompileM.bindValue v = run ⟨.ok "?", [v], []⟩ := by
  funext ctx
  simp only [run, CompileM.bindValue, append_nil_list]
  congr

theorem run_bindValues (vs : List Value) : CompileM.bindValues vs = run ⟨.ok (), vs, []⟩ := by
  funext ctx
  simp only [run, CompileM.bindValues, append_nil_list]

theorem run_record (es : List Event) : CompileM.record es = run ⟨.ok (), [], es⟩ := by
  funext ctx
  simp only [run, CompileM.record, append_nil_list]

/-- What comes after an error is not run. -/
theorem run_error_bind (e : CompileError) (vs : List Value) (es : List Event) (k : α → CompileM β) :
    run ⟨.error e, vs, es⟩ >>= k = run ⟨.error e, vs, es⟩ :=
  rfl

/-- What comes after a result appends to what has been appended. -/
theorem run_ok_bind (a : α) (vs : List Value) (es : List Event) {k : α → CompileM β}
    {w : Emitted β} (h : k a = w.run) :
    run ⟨.ok a, vs, es⟩ >>= k = run ⟨w.outcome, vs ++ w.values, es ++ w.events⟩ := by
  funext ctx
  have hstep : (run ⟨.ok a, vs, es⟩ >>= k) ctx =
      k a ⟨ctx.bindings ++ vs, ctx.events ++ es⟩ := rfl
  rw [hstep, h]
  simp only [run, append_assoc_list]

/-- An action determines what it emits. -/
theorem run_injective {w w' : Emitted α} (h : w.run = w'.run) : w = w' := by
  obtain ⟨outcome, vs, es⟩ := w
  obtain ⟨outcome', vs', es'⟩ := w'
  have happended : ∀ {β : Type} {as bs : List β},
      (#[] : Array β) ++ as = (#[] : Array β) ++ bs → as = bs := by
    intro β as bs hab
    simpa using congrArg Array.toList hab
  have hrun := congrFun h {}
  cases outcome <;> cases outcome' <;>
    simp only [run, EStateM.Result.ok.injEq, EStateM.Result.error.injEq, Context.mk.injEq,
      reduceCtorEq] at hrun
  all_goals
    obtain ⟨rfl, hvs, hes⟩ := hrun
    rw [happended hvs, happended hes]

end Emitted

/-! ## Sequences of actions -/

section Bind

variable {m : CompileM α} {k : α → CompileM β} {ctx mid ctx' : Context}

theorem bind_of_ok {a : α} (h : m ctx = .ok a mid) : (m >>= k) ctx = k a mid := by
  change EStateM.bind m k ctx = _
  rw [EStateM.bind, h]

theorem bind_of_error {e : CompileError} (h : m ctx = .error e mid) :
    (m >>= k) ctx = .error e mid := by
  change EStateM.bind m k ctx = _
  rw [EStateM.bind, h]

theorem bind_eq_ok {b : β} (h : (m >>= k) ctx = .ok b ctx') :
    ∃ a mid, m ctx = .ok a mid ∧ k a mid = .ok b ctx' := by
  cases hm : m ctx with
  | ok a mid =>
    rw [bind_of_ok hm] at h
    exact ⟨a, mid, rfl, h⟩
  | error e mid =>
    rw [bind_of_error hm] at h
    cases h

end Bind

/-- The action emits the same in every context, and `P` holds of what it emits when it succeeds. -/
def Emits (m : CompileM α) (P : α → List Value → Prop) : Prop :=
  ∃ w : Emitted α, m = w.run ∧ ∀ a, w.outcome = .ok a → P a w.values

namespace Emits

theorem mono {m : CompileM α} {P P' : α → List Value → Prop} (h : Emits m P)
    (hp : ∀ a vs, P a vs → P' a vs) : Emits m P' := by
  obtain ⟨w, hw, hP⟩ := h
  exact ⟨w, hw, fun a ha => hp a _ (hP a ha)⟩

theorem pure {a : α} {P : α → List Value → Prop} (h : P a []) :
    Emits (Pure.pure a : CompileM α) P := by
  refine ⟨_, Emitted.run_pure a, ?_⟩
  rintro _ ⟨⟩
  exact h

theorem throw {e : CompileError} {P : α → List Value → Prop} :
    Emits (MonadExcept.throw e : CompileM α) P := by
  refine ⟨_, Emitted.run_throw e, ?_⟩
  rintro _ ⟨⟩

/-- The values of the first action come first. -/
theorem bind {m : CompileM α} {k : α → CompileM β} {P : α → List Value → Prop}
    {P' : β → List Value → Prop} (hm : Emits m P)
    (hk : ∀ a vs, P a vs → Emits (k a) fun b ws => P' b (vs ++ ws)) : Emits (m >>= k) P' := by
  obtain ⟨⟨outcome, vs, es⟩, rfl, hP⟩ := hm
  cases outcome with
  | error e =>
    refine ⟨_, Emitted.run_error_bind e vs es k, ?_⟩
    rintro _ ⟨⟩
  | ok a =>
    obtain ⟨w, hw, hP'⟩ := hk a vs (hP a rfl)
    exact ⟨_, Emitted.run_ok_bind a vs es hw, hP'⟩

theorem map {m : CompileM α} {g : α → β} {P : β → List Value → Prop}
    (h : Emits m fun a vs => P (g a) vs) : Emits (do return g (← m)) P :=
  bind h fun _ vs ha => pure (by rwa [List.append_nil])

theorem bindValue {v : Value} {P : String → List Value → Prop} (h : P "?" [v]) :
    Emits (CompileM.bindValue v) P := by
  refine ⟨_, Emitted.run_bindValue v, ?_⟩
  rintro _ ⟨⟩
  exact h

theorem bindValues (vs : List Value) : Emits (CompileM.bindValues vs) fun _ ws => ws = vs :=
  ⟨_, Emitted.run_bindValues vs, fun _ _ => rfl⟩

theorem record (es : List Event) : Emits (CompileM.record es) fun _ ws => ws = [] :=
  ⟨_, Emitted.run_record es, fun _ _ => rfl⟩

theorem ofExcept {r : Except CompileError α} {P : α → List Value → Prop}
    (h : ∀ a, r = .ok a → P a []) : Emits (CompileM.ofExcept r) P := by
  cases r with
  | ok a => exact pure (h a rfl)
  | error e => exact throw

/-- A fragment that is copied has as many marks as values. -/
theorem fragment {f : Fragment} {P : String → List Value → Prop}
    (h : Placeholder.count f.sql = f.bindings.length → P f.sql f.bindings) :
    Emits (CompileM.fragment f) P := by
  unfold CompileM.fragment
  split
  · rename_i hcount
    refine bind (bindValues f.bindings) fun _ vs hvs => ?_
    subst hvs
    exact pure (by rw [List.append_nil]; exact h hcount)
  · exact throw

end Emits

/-- Texts with the values of each in order, one after the other, beside what they stand for. -/
inductive EmittedList {α β : Type} (R : α → List Value → β → Prop) :
    List α → List Value → List β → Prop
  | nil : EmittedList R [] [] []
  | cons {a : α} {b : β} {as : List α} {bs : List β} {vs ws : List Value} :
      R a vs b → EmittedList R as ws bs → EmittedList R (a :: as) (vs ++ ws) (b :: bs)

theorem Emits.mapM {γ : Type} {R : β → List Value → γ → Prop} {f : α → CompileM β}
    {xs : List α} {ys : List γ}
    (h : List.Forall₂ (fun x y => Emits (f x) fun b vs => R b vs y) xs ys) :
    Emits (xs.mapM f) fun bs vs => EmittedList R bs vs ys := by
  induction h with
  | nil => exact Emits.pure EmittedList.nil
  | @cons x y xs ys hx _ ih =>
    rw [List.mapM_cons]
    refine Emits.bind hx fun b vs hb => ?_
    refine Emits.bind ih fun bs ws hbs => ?_
    exact Emits.pure (by rw [List.append_nil]; exact EmittedList.cons hb hbs)

/-- The same for items that are changed in two ways, one to run and one to compare with. -/
theorem Emits.mapM_map {γ δ ε : Type} {R : β → List Value → γ → Prop} {k : α → CompileM β}
    {r : δ → γ} {f : ε → α} {g : ε → δ} {xs : List ε}
    (h : ∀ x ∈ xs, Emits (k (f x)) fun b vs => R b vs (r (g x))) :
    Emits ((xs.map f).mapM k) fun bs vs => EmittedList R bs vs ((xs.map g).map r) := by
  refine Emits.mapM ?_
  rw [List.forall₂_map_left_iff, List.map_map, List.forall₂_map_right_iff, List.forall₂_same]
  exact h

namespace EmittedList

variable {γ δ : Type} {R : α → List Value → γ → Prop}

theorem map {R' : β → List Value → δ → Prop} {f : α → β} {g : γ → δ} {as : List α}
    {vs : List Value} {bs : List γ} (h : EmittedList R as vs bs)
    (hmap : ∀ a vs b, R a vs b → R' (f a) vs (g b)) :
    EmittedList R' (as.map f) vs (bs.map g) := by
  induction h with
  | nil => exact nil
  | cons hab _ ih => exact cons (hmap _ _ _ hab) ih

/-- Items may be dropped if they are dropped on both sides and carry no values. -/
theorem filterMap {R' : β → List Value → δ → Prop} {f : α → Option β} {g : γ → Option δ}
    {as : List α} {vs : List Value} {bs : List γ} (h : EmittedList R as vs bs)
    (hmap : ∀ a vs b, R a vs b →
      (f a = none ∧ g b = none ∧ vs = []) ∨ ∃ x y, f a = some x ∧ g b = some y ∧ R' x vs y) :
    EmittedList R' (as.filterMap f) vs (bs.filterMap g) := by
  induction h with
  | nil => exact nil
  | cons hab _ ih =>
    rcases hmap _ _ _ hab with ⟨hf, hg, rfl⟩ | ⟨x, y, hf, hg, hxy⟩
    · rw [List.filterMap_cons_none hf, List.filterMap_cons_none hg]
      exact ih
    · rw [List.filterMap_cons_some hf, List.filterMap_cons_some hg]
      exact cons hxy ih

end EmittedList

/-- What an action returned and appended when it was run. -/
theorem Emits.of_run {m : CompileM α} {P : α → List Value → Prop} (h : Emits m P) {a : α}
    {ctx : Context} (hm : m {} = .ok a ctx) : P a ctx.bindings.toList := by
  obtain ⟨⟨outcome, vs, es⟩, rfl, hP⟩ := h
  cases outcome with
  | error e => cases hm
  | ok b =>
    cases hm
    simpa using hP a rfl

/-! ## Actions that succeed -/

/-- The action succeeds in every context, with one result, and `P` holds of it. -/
def Returns (m : CompileM α) (P : α → Prop) : Prop :=
  ∃ a vs es, m = Emitted.run ⟨.ok a, vs, es⟩ ∧ P a

namespace Returns

theorem pure {a : α} {P : α → Prop} (h : P a) : Returns (Pure.pure a) P :=
  ⟨a, _, _, Emitted.run_pure a, h⟩

theorem bindValue {v : Value} {P : String → Prop} (h : P "?") :
    Returns (CompileM.bindValue v) P :=
  ⟨_, _, _, Emitted.run_bindValue v, h⟩

theorem record (es : List Event) : Returns (CompileM.record es) fun _ => True :=
  ⟨_, _, _, Emitted.run_record es, trivial⟩

theorem bind {m : CompileM α} {k : α → CompileM β} {P : α → Prop} {P' : β → Prop}
    (hm : Returns m P) (hk : ∀ a, P a → Returns (k a) P') : Returns (m >>= k) P' := by
  obtain ⟨a, vs, es, rfl, ha⟩ := hm
  obtain ⟨b, ws, fs, hrun, hb⟩ := hk a ha
  exact ⟨b, _, _, Emitted.run_ok_bind a vs es hrun, hb⟩

theorem mono {m : CompileM α} {P P' : α → Prop} (h : Returns m P) (hp : ∀ a, P a → P' a) :
    Returns m P' := by
  obtain ⟨a, vs, es, hm, ha⟩ := h
  exact ⟨a, vs, es, hm, hp a ha⟩

theorem map {m : CompileM α} {g : α → β} {P : β → Prop} (h : Returns m fun a => P (g a)) :
    Returns (do return g (← m)) P :=
  bind h fun _ ha => pure ha

theorem mapM {γ : Type} {R : β → γ → Prop} {f : α → CompileM β} {xs : List α} {ys : List γ}
    (h : List.Forall₂ (fun x y => Returns (f x) (R · y)) xs ys) :
    Returns (xs.mapM f) fun bs => List.Forall₂ R bs ys := by
  induction h with
  | nil => exact pure List.Forall₂.nil
  | cons hx _ ih =>
    rw [List.mapM_cons]
    refine bind hx fun b hb => ?_
    exact map (ih.mono fun bs hbs => List.Forall₂.cons hb hbs)

theorem marks (values : List Value) :
    Returns (values.mapM CompileM.bindValue) (· = List.replicate values.length "?") := by
  induction values with
  | nil => exact pure rfl
  | cons v values ih =>
    rw [List.mapM_cons]
    refine bind (P := (· = "?")) (bindValue rfl) fun mark hmark => ?_
    exact map (ih.mono fun marks hmarks => by rw [hmark, hmarks]; rfl)

/-- The result, in any context. -/
theorem result {m : CompileM α} {P : α → Prop} (h : Returns m P) :
    ∃ a, (∀ ctx, ∃ ctx', m ctx = .ok a ctx') ∧ P a := by
  obtain ⟨a, vs, es, rfl, ha⟩ := h
  exact ⟨a, fun ctx => ⟨_, rfl⟩, ha⟩

end Returns

end SqlSelect
