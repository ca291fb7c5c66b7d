import SqlSelect.Proofs.Quoting

/-!
# What a wrapped name shows outside its quotes

A character is exposed when the scanner is outside quotes before it and after it, so the quotes
themselves are not. Of a wrapped name or list of names only words, separators and the star are
exposed: whatever else a name holds stands in quotes, from which it cannot break out because its own
quotes are doubled.
-/

namespace SqlSelect

open Placeholder

namespace Placeholder

/-- The characters before and after which no quote is open. -/
def Mode.exposed (m : Mode) : List Char → List Char
  | [] => []
  | c :: cs =>
    if m.quote?.isNone && (m.step c).1.quote?.isNone then c :: (m.step c).1.exposed cs
    else (m.step c).1.exposed cs

theorem Mode.exposed_append (m : Mode) (a b : List Char) :
    m.exposed (a ++ b) = m.exposed a ++ (m.after a).exposed b := by
  induction a generalizing m with
  | nil => rfl
  | cons c cs ih =>
    simp only [List.cons_append, Mode.exposed, Mode.after, ih]
    split <;> rfl

theorem Mode.exposed_sublist (m : Mode) (cs : List Char) : (m.exposed cs).Sublist cs := by
  induction cs generalizing m with
  | nil => exact List.Sublist.refl _
  | cons c cs ih =>
    rw [Mode.exposed]
    split
    · exact (ih _).cons_cons c
    · exact (ih _).cons c

end Placeholder

/-- A character of words, separators and stars. -/
def Identifier.isBare (c : Char) : Bool :=
  Text.isAlphanumeric c || ['_', '.', '*', ',', ' '].contains c

/-- The text holds no placeholder, ends outside quotes and shows only words, separators and stars
outside of them. -/
structure Contained (sql : String) : Prop where
  placeholders : Placeholder.all sql = []
  closed : Mode.after .outside sql.toList = .outside
  bare : ∀ c ∈ Mode.exposed .outside sql.toList, Identifier.isBare c = true

/-! ## Quoted text -/

theorem exposed_doubled {quote : Char} (hq : isQuote quote = true) (cs : List Char) :
    Mode.exposed (.quoted quote) (cs.flatMap fun c => if c = quote then [quote, quote] else [c]) =
      [] := by
  induction cs with
  | nil => rfl
  | cons c cs ih =>
    have hfirst := passes_doubled hq [c]
    rw [List.flatMap_singleton] at hfirst
    rw [List.flatMap_cons, Mode.exposed_append, hfirst.after_eq, ih, List.append_nil]
    -- a doubled quote leaves the quotes between its two characters and exposes neither
    by_cases hc : c = quote
    · simp [hc, Mode.exposed, Mode.quote?, step_close, step_open hq]
    · simp [hc, Mode.exposed, Mode.quote?]

/-- Nothing of a text in quotes is exposed. -/
theorem exposed_enclose {quote : Char} (hq : isQuote quote = true) (cs : List Char) :
    Mode.exposed .outside (enclose quote cs) = [] := by
  have hinner := passes_doubled hq cs
  simp [enclose, Mode.exposed, Mode.quote?, step_open hq, Mode.exposed_append, exposed_doubled hq,
    hinner.after_eq, step_close]

/-! ## Names -/

/-- Inert text of which only bare characters are exposed. -/
structure Covered (sql : String) : Prop where
  inert : Inert sql
  bare : ∀ c ∈ Mode.exposed .outside sql.toList, Identifier.isBare c = true

namespace Covered

theorem append {a b : String} (ha : Covered a) (hb : Covered b) : Covered (a ++ b) := by
  refine ⟨ha.inert.append hb.inert, ?_⟩
  rw [String.toList_append, Mode.exposed_append, ha.inert.after_eq, List.forall_mem_append]
  exact ⟨ha.bare, hb.bare⟩

/-- A text of bare characters is all exposed. -/
theorem of_bare {sql : String} (hi : Inert sql)
    (h : ∀ c ∈ sql.toList, Identifier.isBare c = true) : Covered sql :=
  ⟨hi, fun c hc => h c ((Mode.exposed_sublist _ _).mem hc)⟩

theorem contained {sql : String} (h : Covered sql) : Contained sql := by
  refine ⟨?_, h.inert.after_eq, h.bare⟩
  rw [all, h.inert.scan_eq, placeholdersFrom_map_char]

end Covered

theorem Identifier.bare_wrapChars {quote? : Option Char}
    (hq : ∀ quote ∈ quote?, isQuote quote = true) (cs : List Char) :
    ∀ c ∈ Mode.exposed .outside (wrapChars quote? cs), isBare c = true := by
  have hquoted : ∀ quote, isQuote quote = true →
      ∀ c ∈ Mode.exposed .outside (enclose quote cs), isBare c = true := by
    intro quote hquote
    rw [exposed_enclose hquote]
    exact fun c hc => absurd hc List.not_mem_nil
  unfold wrapChars
  split
  · exact List.all_eq_true.mp (by decide)
  · cases quote? with
    | some quote => exact hquoted quote (hq quote rfl)
    | none =>
      dsimp only
      split
      · rename_i hplain
        simp only [isPlain, Bool.and_eq_true, List.all_eq_true] at hplain
        intro c hc
        have hword := hplain.2 c ((Mode.exposed_sublist _ _).mem hc)
        rw [Bool.or_eq_true, beq_iff_eq] at hword
        rcases hword with hletter | rfl
        · simp [isBare, hletter]
        · simp [isBare]
      · exact hquoted _ (by decide)

theorem Identifier.carries_covered {quote? : Option Char}
    (hq : ∀ quote ∈ quote?, isQuote quote = true) : Carries quote? Covered where
  empty := .of_bare Inert.empty (List.all_eq_true.mp (by decide))
  append := Covered.append
  segment := by
    intro cs
    refine ⟨(carries_inert hq).segment cs, ?_⟩
    rw [String.toList_ofList]
    exact bare_wrapChars hq cs
  separator := by
    intro s hs
    have hall : [".", " AS ", ", ", "*"].all (·.toList.all isBare) = true := by decide
    exact .of_bare ((carries_inert hq).separator s hs)
      (List.all_eq_true.mp (List.all_eq_true.mp hall s hs))

/-- A wrapped name, segment or list of names holds no placeholder, ends outside quotes and shows
only words, separators and stars outside of them, whatever the names hold. -/
theorem contained_wrap {quote? : Option Char}
    (hq : quote? ∈ [none, some '\x22', some '\x60']) :
    (∀ name, Contained (Identifier.wrap quote? name)) ∧
    (∀ segment, Contained (Identifier.wrapSegment quote? segment)) ∧
    ∀ names, Contained (Identifier.wrapList quote? names) := by
  have hquote : ∀ quote ∈ quote?, isQuote quote = true := by
    simp only [List.mem_cons, List.not_mem_nil, or_false] at hq
    rcases hq with rfl | rfl | rfl <;> intro quote hquote <;> cases hquote <;> rfl
  have hcarries := Identifier.carries_covered hquote
  refine ⟨?_, ?_, ?_⟩
  · intro name
    exact (hcarries.name name).contained
  · intro segment
    exact (hcarries.segment segment.toList).contained
  · intro names
    exact (hcarries.list names).contained

/-- Quotes of both kinds, marks of both kinds and an alias. -/
theorem contained_wrap_sample :
    let name := "a\x22?.$1 as b\x60"
    (none : Option Char) ∈ [none, some '\x22', some '\x60'] ∧
      Identifier.wrap none name = "\x22a\x22\x22?\x22.\x22$1\x22 AS \x22b\x60\x22" ∧
      Contained (Identifier.wrap none name) ∧ Contained (Identifier.wrapSegment none name) ∧
      Contained (Identifier.wrapList none [name, "*"]) := by
  intro name
  have hnone : (none : Option Char) ∈ [none, some '\x22', some '\x60'] := by decide
  obtain ⟨hwrap, hsegment, hlist⟩ := contained_wrap hnone
  exact ⟨hnone, by decide +kernel, hwrap name, hsegment name, hlist [name, "*"]⟩

end SqlSelect
