import SqlSelect.Proofs.Balance
import SqlSelect.Proofs.Quoting

/-!
# Replacing placeholders

A replaced text is read again by the same scanner. It meets the characters of the old text in the
same order, with other texts among them, and what it finds depends on one thing only: which quote is
open where. `Reading` gives the tokens of a text with the quote that is open before and after each,
so a statement about the new text is an induction over the tokens of the old one.

A literal has no placeholder outside quotes and closes its quotes, whatever its value holds. So a
statement whose placeholders all have a value is inlined to a text without placeholders.
-/

namespace SqlSelect

namespace Placeholder

/-! ## Tokens and open quotes -/

/-- The digits that the scanner has read after a `$`. -/
def Mode.digits : Mode → List Char
  | .dollar digits => digits
  | _ => []

/-- The mode outside quotes or inside the given one. -/
def Mode.ofQuote : Option Char → Mode
  | none => .outside
  | some quote => .quoted quote

/-- Tokens that are found one after another, with the quote that is open before and after them. -/
inductive Reading : Option Char → List Token → Option Char → Prop
  | nil (quote? : Option Char) : Reading quote? [] quote?
  | char {quote? quote?' : Option Char} {c : Char} {ts : List Token} :
      (quote? = none → c ≠ '?' ∧ c ≠ '$') → Reading (nextQuote quote? c) ts quote?' →
      Reading quote? (.char c :: ts) quote?'
  | mark {quote?' : Option Char} {ts : List Token} :
      Reading none ts quote?' → Reading none (.mark :: ts) quote?'
  | dollar {quote?' : Option Char} {digits : List Char} {ts : List Token} :
      (∀ c ∈ digits, c.isDigit = true) → Reading none ts quote?' →
      Reading none (.dollar digits :: ts) quote?'

/-- The tokens of a text are a reading, also when its beginning has been read. -/
theorem reading_scanFrom {m : Mode} (hm : ∀ c ∈ m.digits, c.isDigit = true) (cs : List Char) :
    Reading m.quote? (scanFrom m cs) (m.after cs).quote? := by
  induction cs generalizing m with
  | nil =>
    cases m with
    | outside => exact .nil _
    | quoted quote => exact .nil _
    | dollar digits => exact .dollar hm (.nil _)
  | cons c cs ih =>
    -- a `$` ends nothing and starts a number, everything else completes one token
    have hout : Reading none (scanFrom .outside (c :: cs))
        (Mode.after .outside (c :: cs)).quote? := by
      rw [scanFrom, Mode.after, Mode.step, Mode.stepOutside]
      by_cases hquote : isQuote c = true
      · rw [if_pos hquote]
        refine .char (fun _ => ?_) ?_
        · refine ⟨?_, ?_⟩ <;> rintro rfl <;> cases hquote
        · rw [nextQuote, if_pos hquote]
          exact ih (m := .quoted c) (by simp [Mode.digits])
      · rw [if_neg hquote]
        by_cases hmark : c = '?'
        · rw [if_pos hmark]
          exact .mark (ih (m := .outside) (by simp [Mode.digits]))
        · rw [if_neg hmark]
          by_cases hdollar : c = '$'
          · rw [if_pos hdollar]
            exact ih (m := .dollar []) (by simp [Mode.digits])
          · rw [if_neg hdollar]
            refine .char (fun _ => ⟨hmark, hdollar⟩) ?_
            rw [nextQuote, if_neg hquote]
            exact ih (m := .outside) (by simp [Mode.digits])
    cases m with
    | outside => exact hout
    | quoted quote =>
      rw [scanFrom, Mode.after]
      refine .char (fun h => by cases h) ?_
      rw [← quote_step]
      refine ih fun d hd => ?_
      simp only [Mode.step] at hd
      split at hd <;> cases hd
    | dollar digits =>
      by_cases hdigit : c.isDigit = true
      · rw [scanFrom, Mode.after, Mode.step, if_pos hdigit]
        refine ih (m := .dollar (digits ++ [c])) fun d hd => ?_
        rcases List.mem_append.mp hd with hd | hd
        · exact hm d hd
        · rw [List.mem_singleton.mp hd]
          exact hdigit
      · rw [scanFrom, Mode.after, Mode.step, if_neg hdigit]
        exact .dollar hm hout

theorem reading_scan (sql : String) :
    Reading none (scan sql) (Mode.after .outside sql.toList).quote? :=
  reading_scanFrom (m := .outside) (by simp [Mode.digits]) sql.toList

/-! ## The placeholders that are replaced -/

/-- Tokens are spelled as they are where no placeholder is replaced. -/
theorem replaceFrom_eq_spelling {f : Placeholder → Option String} {ts : List Token} {seen : Nat}
    (h : ∀ p ∈ placeholdersFrom seen ts, f p = none) :
    replaceFrom f seen ts = ts.flatMap Token.spelling := by
  induction ts generalizing seen with
  | nil => rfl
  | cons t ts ih =>
    cases t with
    | char c => exact congrArg (c :: ·) (ih h)
    | mark =>
      rw [placeholdersFrom, List.forall_mem_cons] at h
      rw [replaceFrom, h.1, ih h.2]
      rfl
    | dollar digits =>
      rw [placeholdersFrom, List.forall_mem_append] at h
      have hnone : (number? digits).bind (fun n => f (.numbered n)) = none := by
        cases hn : number? digits with
        | none => rfl
        | some n => exact h.1 _ (by simp [hn])
      rw [replaceFrom, hnone, ih h.2]
      rfl

theorem replace_eq_self {f : Placeholder → Option String} {sql : String}
    (h : ∀ p ∈ all sql, f p = none) : replace f sql = sql := by
  rw [replace, replaceFrom_eq_spelling h, spelling_scan, String.ofList_toList]

/-- A `?` that is counted stands in the text. -/
theorem mark_mem_of_positional {ts : List Token} {seen n : Nat}
    (h : .positional n ∈ placeholdersFrom seen ts) : .mark ∈ ts := by
  induction ts generalizing seen with
  | nil => cases h
  | cons t ts ih =>
    cases t with
    | char c => exact List.mem_cons_of_mem _ (ih h)
    | mark => exact List.mem_cons_self
    | dollar digits =>
      rw [placeholdersFrom, List.mem_append] at h
      rcases h with h | h
      · simp at h
      · exact List.mem_cons_of_mem _ (ih h)

/-! ## Inert texts in place of placeholders -/

theorem step_ofQuote {quote? : Option Char} {c : Char} (h : quote? = none → c ≠ '?' ∧ c ≠ '$') :
    (Mode.ofQuote quote?).step c = (.ofQuote (nextQuote quote? c), [.char c]) := by
  cases quote? with
  | none =>
    obtain ⟨hmark, hdollar⟩ := h rfl
    by_cases hquote : isQuote c = true <;>
      simp [Mode.ofQuote, Mode.step, Mode.stepOutside, nextQuote, hquote, hmark, hdollar]
  | some quote =>
    by_cases hc : c = quote <;> simp [Mode.ofQuote, Mode.step, nextQuote, hc]

theorem quote_ofQuote (quote? : Option Char) : (Mode.ofQuote quote?).quote? = quote? := by
  cases quote? <;> rfl

theorem finish_ofQuote (quote? : Option Char) : (Mode.ofQuote quote?).finish = [] := by
  cases quote? <;> rfl

/-- A `$` is complete with a number that fits 64 bits. -/
def Token.isComplete : Token → Bool
  | .dollar digits => (number? digits).isSome
  | _ => true

/-- If every placeholder is replaced by an inert text and every `$` belongs to one, the scanner
passes over the result, from quote to quote as it did before. -/
theorem Reading.passes {f : Placeholder → Option String} {quote? quote?' : Option Char}
    {ts : List Token} {seen : Nat} (h : Reading quote? ts quote?')
    (hf : ∀ p ∈ placeholdersFrom seen ts, ∃ s, f p = some s ∧ Inert s)
    (hd : ∀ t ∈ ts, t.isComplete = true) :
    Passes (.ofQuote quote?) (replaceFrom f seen ts) (.ofQuote quote?') := by
  induction h generalizing seen with
  | nil quote? => exact Passes.nil _
  | char hc _ ih =>
    rw [List.forall_mem_cons] at hd
    exact Passes.cons (step_ofQuote hc) (ih hf hd.2)
  | mark _ ih =>
    rw [List.forall_mem_cons] at hd
    rw [placeholdersFrom, List.forall_mem_cons] at hf
    obtain ⟨⟨s, hs, hinert⟩, hrest⟩ := hf
    rw [replaceFrom, hs]
    exact Passes.append hinert (ih hrest hd.2)
  | @dollar _ digits _ _ _ ih =>
    rw [List.forall_mem_cons] at hd
    obtain ⟨n, hn⟩ := Option.isSome_iff_exists.mp hd.1
    rw [placeholdersFrom, hn, List.forall_mem_append] at hf
    obtain ⟨s, hs, hinert⟩ := hf.1 (.numbered n) (by simp)
    rw [replaceFrom, hn, Option.bind_some, hs]
    exact Passes.append hinert (ih hf.2 hd.2)

end Placeholder

open Placeholder

/-! ## Literals -/

theorem passes_quoted_of_notMem {quote : Char} {cs : List Char} (h : quote ∉ cs) :
    Passes (.quoted quote) cs (.quoted quote) := by
  induction cs with
  | nil => exact Passes.nil _
  | cons c cs ih =>
    rw [List.mem_cons, not_or] at h
    refine Passes.cons ?_ (ih h.2)
    simp [Mode.step, Ne.symm h.1]

theorem IsWord.passes {cs : List Char} (h : IsWord cs) : Passes .outside cs .outside :=
  passes_ordinary fun c hc => isOrdinary_of_class (p := isWordChar) (by decide) (h.chars c hc)

theorem quote_notMem_hexByte (byte : UInt8) : '\x27' ∉ hexByte byte := by
  have hdigit : ∀ n : Fin 16, '\x27' ≠ (Nat.digitChar n).toUpper := by decide
  have hlt : byte.toNat < 256 := byte.toNat_lt
  simp only [hexByte, List.mem_cons, List.not_mem_nil, or_false, not_or]
  exact ⟨hdigit ⟨byte.toNat / 16, by omega⟩, hdigit ⟨byte.toNat % 16, by omega⟩⟩

/-- The scanner finds nothing in a literal, whatever its value holds. -/
theorem Value.inert_literal (v : Value) : Inert v.literal := by
  cases v with
  | null => exact IsWord.passes (by decide)
  | bool b => cases b <;> exact IsWord.passes (by decide)
  | int n => exact (isWord_intRepr n.toInt).passes
  | float x => exact (isWord_floatLiteral x).passes
  | text s =>
    rw [Inert, Value.literal, String.toList_ofList]
    exact passes_enclose (by decide) s.toList
  | blob bytes =>
    have hbytes : '\x27' ∉ bytes.flatMap hexByte := by
      intro h
      obtain ⟨byte, _, hbyte⟩ := List.mem_flatMap.mp h
      exact quote_notMem_hexByte byte hbyte
    simp only [Inert, Value.literal, String.toList_append, String.toList_ofList]
    refine Passes.append (passes_ordinary (List.all_eq_true.mp (by decide))) ?_
    exact Passes.cons (step_open (by decide))
      ((passes_quoted_of_notMem hbytes).append (Passes.singleton (step_close _)))

/-! ## Inlined statements -/

/-- A placeholder within the values stands for one of them. -/
theorem Placeholder.exists_value {bindings : Array Value} {p : Placeholder} (hpos : 1 ≤ p.index)
    (hle : p.index ≤ bindings.size) : ∃ v, p.value? bindings = some v := by
  have hget : ∀ n, n + 1 ≤ bindings.size → ∃ v, bindings[n]? = some v :=
    fun n hn => ⟨_, Array.getElem?_eq_getElem hn⟩
  cases p with
  | positional n =>
    cases n with
    | zero => cases hpos
    | succ n => exact hget n hle
  | numbered n =>
    cases n with
    | zero => cases hpos
    | succ n => exact hget n hle

/-- If every placeholder of a statement has a value and every `$` outside quotes belongs to one, the
inlined text has no placeholder and no `$` outside quotes, the same quote is open at its end, and
inlining it again with any values changes nothing. -/
theorem inline_without_placeholders (s : Statement)
    (hrange : ∀ p ∈ all s.sql, 1 ≤ p.index ∧ p.index ≤ s.bindings.size)
    (hdollar : ∀ t ∈ scan s.sql, t.isComplete = true) :
    all s.inline = [] ∧ DollarFree s.inline ∧
      (Mode.after .outside s.inline.toList).quote? = (Mode.after .outside s.sql.toList).quote? ∧
      ∀ bindings, Statement.inline ⟨s.inline, bindings⟩ = s.inline := by
  have hliteral : ∀ p ∈ all s.sql,
      ∃ t, (p.value? s.bindings).map Value.literal = some t ∧ Inert t := by
    intro p hp
    obtain ⟨v, hv⟩ := Placeholder.exists_value (hrange p hp).1 (hrange p hp).2
    exact ⟨v.literal, by rw [hv, Option.map_some], v.inert_literal⟩
  have hpasses := (reading_scan s.sql).passes hliteral hdollar
  rw [← String.toList_ofList (l := replaceFrom _ _ _)] at hpasses
  have hscan : scan s.inline = s.inline.toList.map .char := hpasses.scanFrom_eq (finish_ofQuote _)
  have hall : all s.inline = [] := by rw [all, hscan, placeholdersFrom_map_char]
  refine ⟨hall, ?_, ?_, ?_⟩
  · intro t ht
    rw [hscan] at ht
    obtain ⟨c, _, rfl⟩ := List.mem_map.mp ht
    rfl
  · have hafter := congrArg Mode.quote? hpasses.after_eq
    rw [quote_ofQuote] at hafter
    exact hafter
  · intro bindings
    refine replace_eq_self fun p hp => ?_
    rw [hall] at hp
    cases hp

/-- Values that hold quotes and placeholders, next to quotes, digits and each other. The last quote
is left open. -/
theorem inline_without_placeholders_sample :
    let s : Statement :=
      ⟨"a?'$1'$2$1 \x22b? '", #[.text "it's ? $1", .blob [63, 39], .int 5]⟩
    (∀ p ∈ all s.sql, 1 ≤ p.index ∧ p.index ≤ s.bindings.size) ∧
      (∀ t ∈ scan s.sql, t.isComplete = true) ∧
      s.inline = "a'it''s ? $1''$1'X'3F27''it''s ? $1' \x22b? '" ∧ all s.inline = [] ∧
      (Mode.after .outside s.inline.toList).quote? = some '\x22' ∧
      ∀ bindings, Statement.inline ⟨s.inline, bindings⟩ = s.inline := by
  intro s
  have hrange : ∀ p ∈ all s.sql, 1 ≤ p.index ∧ p.index ≤ s.bindings.size := by decide
  have hdollar : ∀ t ∈ scan s.sql, t.isComplete = true := by decide
  obtain ⟨hall, _, hquote, hagain⟩ := inline_without_placeholders s hrange hdollar
  exact ⟨hrange, hdollar, by decide, hall, hquote.trans (by decide), hagain⟩

end SqlSelect
