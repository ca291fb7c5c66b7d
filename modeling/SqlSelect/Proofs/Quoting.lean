import SqlSelect.Dialect
import SqlSelect.Proofs.Scanning

/-!
# Names are inert

Whatever a name holds, quotes and placeholders included, the scanner finds nothing in its wrapped
form and is outside quotes after it. A doubled quote closes the quoted part and opens the next one
at once, so the scanner stays inside; a word that is left bare has only letters, numbers and
underscores.
-/

namespace SqlSelect

open Placeholder

/-- What holds of texts that are put together holds of texts with a separator between them. -/
theorem intercalate_of_append {P : String → Prop} (hempty : P "")
    (happend : ∀ {a b : String}, P a → P b → P (a ++ b)) {separator : String}
    {texts : List String} (hs : P separator) (h : ∀ t ∈ texts, P t) :
    P (String.intercalate separator texts) := by
  induction texts with
  | nil =>
    rw [String.intercalate_nil]
    exact hempty
  | cons t ts ih =>
    have ht := h t List.mem_cons_self
    have hts := ih fun t ht => h t (List.mem_cons_of_mem _ ht)
    by_cases hn : ts = []
    · rw [hn, String.intercalate_singleton]
      exact ht
    · rw [String.intercalate_cons_of_ne_nil hn]
      exact happend (happend ht hs) hts

theorem Placeholder.step_open {quote : Char} (hq : isQuote quote = true) :
    Mode.step .outside quote = (.quoted quote, [.char quote]) := by
  simp [Mode.step, Mode.stepOutside, hq]

theorem Placeholder.step_close (quote : Char) :
    Mode.step (.quoted quote) quote = (.outside, [.char quote]) := by
  simp [Mode.step]

theorem passes_doubled {quote : Char} (hq : isQuote quote = true) (cs : List Char) :
    Passes (.quoted quote) (cs.flatMap fun c => if c = quote then [quote, quote] else [c])
      (.quoted quote) := by
  induction cs with
  | nil => exact Passes.nil _
  | cons c cs ih =>
    rw [List.flatMap_cons]
    refine Passes.append ?_ ih
    by_cases hc : c = quote
    · rw [if_pos hc]
      exact Passes.cons (step_close quote) (Passes.singleton (step_open hq))
    · rw [if_neg hc]
      exact Passes.singleton (by simp [Mode.step, hc])

/-- A text in quotes is passed over, whatever it holds. -/
theorem passes_enclose {quote : Char} (hq : isQuote quote = true) (cs : List Char) :
    Passes .outside (enclose quote cs) .outside :=
  Passes.cons (step_open hq) ((passes_doubled hq cs).append (Passes.singleton (step_close quote)))

theorem isOrdinary_of_plain {c : Char} (h : (Text.isAlphanumeric c || c == '_') = true) :
    isOrdinary c = true :=
  isOrdinary_of_class (p := fun c => Text.isAlphanumeric c || c == '_') (by decide) h

/-- The quote of names is one that the scanner knows. -/
def Dialect.QuotesNames (d : Dialect) : Prop :=
  ∀ quote ∈ d.quote?, isQuote quote = true

theorem Dialect.quotesNames_of_builtin {d : Dialect} (h : d ∈ Dialect.builtin) :
    d.QuotesNames := by
  simp only [Dialect.builtin, List.mem_cons, List.not_mem_nil, or_false] at h
  rcases h with rfl | rfl | rfl | rfl <;>
    simp [QuotesNames, generic, postgres, mysql, sqlite] <;> decide

namespace Identifier

theorem passes_wrapChars {quote? : Option Char} (hq : ∀ quote ∈ quote?, isQuote quote = true)
    (cs : List Char) : Passes .outside (wrapChars quote? cs) .outside := by
  unfold wrapChars
  split
  · exact passes_ordinary (List.all_eq_true.mp (by decide))
  · cases quote? with
    | some quote => exact passes_enclose (hq quote rfl) cs
    | none =>
      dsimp only
      split
      · rename_i hplain
        simp only [isPlain, Bool.and_eq_true, List.all_eq_true] at hplain
        exact passes_ordinary fun c hc => isOrdinary_of_plain (hplain.2 c hc)
      · exact passes_enclose (by decide) cs

/-- A condition on texts that holds of segments and separators, and of texts put together. -/
structure Carries (quote? : Option Char) (P : String → Prop) : Prop where
  empty : P ""
  append : ∀ {a b : String}, P a → P b → P (a ++ b)
  segment : ∀ cs, P (String.ofList (wrapChars quote? cs))
  separator : ∀ s ∈ [".", " AS ", ", ", "*"], P s

namespace Carries

variable {quote? : Option Char} {P : String → Prop} (h : Carries quote? P)
include h

theorem path (expression : String) : P (wrapPath quote? expression) := by
  refine intercalate_of_append h.empty h.append (h.separator _ (by decide)) ?_
  intro t ht
  obtain ⟨part, _, rfl⟩ := List.mem_map.mp ht
  exact h.segment _

theorem name (name : String) : P (wrap quote? name) := by
  unfold wrap
  split
  · exact h.append (h.append (h.path _) (h.separator _ (by decide))) (h.segment _)
  · exact h.path _

theorem list (names : List String) : P (wrapList quote? names) := by
  unfold wrapList
  split
  · exact h.separator _ (by decide)
  · refine intercalate_of_append h.empty h.append (h.separator _ (by decide)) ?_
    intro t ht
    obtain ⟨name, _, rfl⟩ := List.mem_map.mp ht
    exact h.name name

end Carries

variable {quote? : Option Char} (hq : ∀ quote ∈ quote?, isQuote quote = true)
include hq

theorem carries_inert : Carries quote? Inert where
  empty := Inert.empty
  append := Inert.append
  segment := by
    intro cs
    rw [Inert, String.toList_ofList]
    exact passes_wrapChars hq cs
  separator := by decide

end Identifier

namespace Dialect

variable {d : Dialect} (hd : d.QuotesNames)
include hd

theorem inert_wrap (name : String) : Inert (d.wrap name) :=
  (Identifier.carries_inert hd).name name

theorem inert_wrapSegment (segment : String) : Inert (d.wrapSegment segment) :=
  (Identifier.carries_inert hd).segment _

theorem inert_wrapList (names : List String) : Inert (d.wrapList names) :=
  (Identifier.carries_inert hd).list names

end Dialect

end SqlSelect
