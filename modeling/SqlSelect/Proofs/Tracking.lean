import SqlSelect.Proofs.Assembly
import SqlSelect.Proofs.Emission
import SqlSelect.Proofs.Quoting
import SqlSelect.Proofs.Tree

/-!
# Relating what is bound to what is put in place

The compiler gives a text and, beside it, values; an assembly gives one piece. `Tracks` lists what a
relation between the two needs in order to hold of a whole statement once it holds of the smallest
parts. The lemmas after it carry such a relation through the ways in which statements are put
together: parentheses, separators, connectives, and the joining of components.
-/

namespace SqlSelect

open Placeholder

/-- The text does not begin with a digit, which after a `?` would read as part of a number. -/
def StartsPlain (s : String) : Prop :=
  s.toList.head?.any Char.isDigit = false

instance (s : String) : Decidable (StartsPlain s) :=
  inferInstanceAs (Decidable (_ = _))

theorem StartsPlain.append {s : String} (h : StartsPlain s) (hne : s ≠ "") (t : String) :
    StartsPlain (s ++ t) := by
  rw [StartsPlain, String.toList_append, List.head?_append_of_ne_nil]
  · exact h
  · rwa [ne_eq, String.toList_eq_nil_iff]

variable {A : Type} [Append A]

/-- A relation between texts with their values and pieces that every way of putting a statement
together preserves. The copied texts are those that satisfy the policy. -/
structure Tracks (d : Dialect) (P : Policy) (w : Assembly A)
    (R : String → List Value → A → Prop) : Prop where
  text : ∀ {s}, Inert s → R s [] (w.text s)
  operator : ∀ {s}, P.operator s → R s [] (w.text s)
  random : ∀ {seed?}, (∀ seed ∈ seed?, P.seed seed) →
    R (d.random seed?) [] (w.text (d.random seed?))
  value : ∀ v, R "?" [v] (w.value v)
  fragment : ∀ {f}, P.fragment f → count f.sql = f.bindings.length →
    R f.sql f.bindings (w.fragment f)
  append : ∀ {s t vs ws a b}, R s vs a → R t ws b → vs = [] ∨ StartsPlain t →
    R (s ++ t) (vs ++ ws) (a ++ b)
  trim : ∀ {s vs a}, R s vs a → R (Text.trim s) vs (w.trim a)
  isEmpty_eq : ∀ {s vs a}, R s vs a → w.isEmpty a = s.isEmpty
  values_eq_nil : ∀ {vs a}, R "" vs a → vs = []
  -- the operator of the joins that deep joins stand for
  operator_eq : P.operator "="

namespace Tracks

variable {d : Dialect} {P : Policy} {w : Assembly A} {R : String → List Value → A → Prop}
  (T : Tracks d P w R)
include T

/-- A text without values comes before any other. -/
theorem lead {s t : String} {vs : List Value} {a b : A} (hs : R s [] a) (ht : R t vs b) :
    R (s ++ t) vs (a ++ b) :=
  T.append hs ht (Or.inl rfl)

/-- A fixed text that does not begin with a digit comes after any other. -/
theorem follow {s t : String} {vs : List Value} {a : A} (hs : R s vs a) (ht : Inert t)
    (hp : StartsPlain t) : R (s ++ t) vs (a ++ w.text t) := by
  have h := T.append hs (T.text ht) (Or.inr hp)
  rwa [List.append_nil] at h

theorem enclose {s t u : String} {vs : List Value} {a : A} (hs : Inert s) (ht : R t vs a)
    (hu : Inert u) (hp : StartsPlain u) : R (s ++ t ++ u) vs (w.text s ++ a ++ w.text u) :=
  T.follow (T.lead (T.text hs) ht) hu hp

theorem values_of_isEmpty {s : String} {vs : List Value} {a : A} (h : R s vs a)
    (hs : s.isEmpty = true) : vs = [] := by
  rw [String.isEmpty_iff] at hs
  subst hs
  exact T.values_eq_nil h

theorem negate {s : String} {vs : List Value} {a : A} (negated : Bool) (h : R s vs a) :
    R (negate negated s) vs (w.negate negated a) := by
  cases negated with
  | false => exact h
  | true => exact T.enclose (by decide) h (by decide) (by decide)

/-! ## Separators and connectives -/

theorem join {separator : String} (hi : Inert separator) (hp : StartsPlain separator)
    (hne : separator ≠ "") {ss : List String} {vs : List Value} {as : List A}
    (h : EmittedList R ss vs as) : R (separator.intercalate ss) vs (w.join separator as) := by
  induction h with
  | nil => exact T.text Inert.empty
  | @cons s a ss as vs ws hs htail ih =>
    cases htail with
    | nil =>
      rw [String.intercalate_singleton, List.append_nil]
      exact hs
    | cons ht htail' =>
      rw [String.intercalate_cons_cons, String.append_assoc]
      exact T.append hs (T.lead (T.text hi) ih) (Or.inr (hp.append hne _))

/-- A written condition beside its piece, both with the same connective. -/
def TermRel (R : String → List Value → A → Prop) (t : Term) (vs : List Value) (b : Bool × A) :
    Prop :=
  t.byOr = b.1 ∧ R t.sql vs b.2

omit T in
theorem inert_connective (byOr : Bool) : Inert (if byOr then " OR " else " AND ") := by
  cases byOr <;> decide

omit T in
theorem startsPlain_connective (byOr : Bool) (t : String) :
    StartsPlain ((if byOr then " OR " else " AND ") ++ t) := by
  cases byOr <;> exact StartsPlain.append (by decide) (by decide) t

theorem connect {ts : List Term} {vs : List Value} {bs : List (Bool × A)}
    (h : EmittedList (TermRel R) ts vs bs) :
    R (String.join (ts.map fun t => t.connective ++ t.sql)) vs (w.connect bs) ∧
      StartsPlain (String.join (ts.map fun t => t.connective ++ t.sql)) := by
  induction h with
  | nil => exact ⟨T.text Inert.empty, by decide⟩
  | @cons t b ts bs vs ws hab _ ih =>
    obtain ⟨byOr, sql⟩ := t
    obtain ⟨byOr', a⟩ := b
    obtain ⟨rfl, hsql⟩ := hab
    rw [List.map_cons, String.join_cons]
    constructor
    · exact T.append (T.lead (T.text (inert_connective byOr)) hsql) ih.1 (Or.inr ih.2)
    · rw [String.append_assoc]
      exact startsPlain_connective byOr _

theorem joinTerms {ts : List Term} {vs : List Value} {bs : List (Bool × A)}
    (h : EmittedList (TermRel R) ts vs bs) : R (Term.join ts) vs (w.joinTerms bs) := by
  cases h with
  | nil => exact T.text Inert.empty
  | cons hab htail =>
    have hconnect := T.connect htail
    exact T.append hab.2 hconnect.1 (Or.inr hconnect.2)

/-! ## Components -/

/-- The relation between components that may be left out. -/
def OptionRel (R : String → List Value → A → Prop) : Option String → List Value → Option A → Prop
  | none, vs, none => vs = []
  | some s, vs, some a => R s vs a
  | _, _, _ => False

theorem nonEmpty {s : String} {vs : List Value} {a : A} (h : R s vs a) :
    OptionRel R (nonEmpty? s) vs (w.nonEmpty? a) := by
  rw [SqlSelect.nonEmpty?, Assembly.nonEmpty?, T.isEmpty_eq h]
  split
  · rename_i hs
    exact T.values_of_isEmpty h hs
  · exact h

omit T [Append A] in
theorem optionMap {R' : String → List Value → A → Prop} {k : String → String} {g : A → A}
    (hk : ∀ {s vs a}, R s vs a → R' (k s) vs (g a)) {s? : Option String} {vs : List Value}
    {a? : Option A} (h : OptionRel R s? vs a?) : OptionRel R' (s?.map k) vs (a?.map g) := by
  cases s? <;> cases a?
  · exact h
  · exact h.elim
  · exact h.elim
  · exact hk h

/-- Components that are left out or blank carry no values, so those that remain carry all. -/
theorem joinFragments {ss : List (Option String)} {vs : List Value} {as : List (Option A)}
    (h : EmittedList (OptionRel R) ss vs as) :
    R (joinFragments ss) vs
      (w.join " " (((as.filterMap id).map w.trim).filter (!w.isEmpty ·))) := by
  have hsome : EmittedList R (ss.filterMap id) vs (as.filterMap id) := by
    refine h.filterMap fun s? vs a? hsa => ?_
    cases s? <;> cases a?
    · exact Or.inl ⟨rfl, rfl, hsa⟩
    · exact hsa.elim
    · exact hsa.elim
    · exact Or.inr ⟨_, _, rfl, rfl, hsa⟩
  have htrim : EmittedList R ((ss.filterMap id).map Text.trim) vs ((as.filterMap id).map w.trim) :=
    hsome.map fun _ _ _ => T.trim
  have hkept : EmittedList R (((ss.filterMap id).map Text.trim).filter (!·.isEmpty)) vs
      (((as.filterMap id).map w.trim).filter (!w.isEmpty ·)) := by
    simp only [← List.filterMap_eq_filter]
    refine htrim.filterMap fun s vs a hsa => ?_
    cases hs : s.isEmpty with
    | true =>
      refine Or.inl ⟨?_, ?_, T.values_of_isEmpty hsa hs⟩
      · simp [Option.guard, hs]
      · simp [Option.guard, T.isEmpty_eq hsa, hs]
    | false =>
      refine Or.inr ⟨s, a, ?_, ?_, hsa⟩
      · simp [Option.guard, hs]
      · simp [Option.guard, T.isEmpty_eq hsa, hs]
  exact T.join (by decide) (by decide) (by decide) hkept

end Tracks

end SqlSelect
