import SqlSelect.Proofs.Replacement

/-!
# Replacement as an edit of the text

What replacement does is said here by three rules, without the scanner: a character is copied, or it
is a `?` outside quotes, or a `$` outside quotes together with all the digits after it. The rules
allow one edited text for each text and each replacement, and the scanner finds it.

Two texts can be edited one after the other when the first one closes its quotes and no number runs
across the cut. The marks of the second text are then counted on from those of the first.
-/

namespace SqlSelect

namespace Placeholder

/-! ## The rules -/

/-- What stands for a placeholder: its replacement, or its own spelling. -/
def edit (replacement? : Option String) (spelling : List Char) : List Char :=
  (replacement?.map String.toList).getD spelling

/-- The text, which begins where `quote?` is open and `seen` marks precede, is edited to the given
one. -/
inductive Edited (f : Placeholder → Option String) :
    (quote? : Option Char) → (seen : Nat) → (text edited : List Char) → Prop
  | nil (quote? : Option Char) (seen : Nat) : Edited f quote? seen [] []
  | copied {quote? : Option Char} {seen : Nat} {c : Char} {text edited : List Char} :
      (quote? = none → c ≠ '?' ∧ c ≠ '$') → Edited f (nextQuote quote? c) seen text edited →
      Edited f quote? seen (c :: text) (c :: edited)
  | mark {seen : Nat} {text edited : List Char} :
      Edited f none (seen + 1) text edited →
      Edited f none seen ('?' :: text) (edit (f (.positional (seen + 1))) ['?'] ++ edited)
  | number {seen : Nat} {digits text edited : List Char} :
      (∀ c ∈ digits, c.isDigit = true) → (∀ c ∈ text.head?, c.isDigit = false) →
      Edited f none seen text edited →
      Edited f none seen ('$' :: (digits ++ text))
        (edit ((number? digits).bind fun n => f (.numbered n)) ('$' :: digits) ++ edited)

/-- A number is read to its last digit. -/
theorem scanFrom_dollar (digits cs : List Char) :
    scanFrom (.dollar digits) cs =
      .dollar (digits ++ cs.takeWhile Char.isDigit) ::
        scanFrom .outside (cs.dropWhile Char.isDigit) := by
  induction cs generalizing digits with
  | nil => simp [scanFrom, Mode.finish]
  | cons c cs ih =>
    by_cases hc : c.isDigit = true
    · rw [scanFrom, Mode.step, if_pos hc, List.takeWhile_cons_of_pos hc,
        List.dropWhile_cons_of_pos hc, List.nil_append, ih, List.append_assoc]
      rfl
    · rw [List.takeWhile_cons_of_neg hc, List.dropWhile_cons_of_neg hc, scanFrom, Mode.step,
        if_neg hc, List.append_nil]
      rfl

theorem takeWhile_isDigit_append {digits text : List Char}
    (hdigits : ∀ c ∈ digits, c.isDigit = true) (htext : ∀ c ∈ text.head?, c.isDigit = false) :
    (digits ++ text).takeWhile Char.isDigit = digits ∧
      (digits ++ text).dropWhile Char.isDigit = text := by
  rw [List.takeWhile_append_of_pos hdigits, List.dropWhile_append_of_pos hdigits]
  cases text with
  | nil => simp
  | cons c text =>
    have hc : ¬c.isDigit = true := by simp [htext c rfl]
    rw [List.takeWhile_cons_of_neg hc, List.dropWhile_cons_of_neg hc, List.append_nil]
    exact ⟨rfl, rfl⟩

/-- The scanner finds the edited text. -/
theorem Edited.eq_replaceFrom {f : Placeholder → Option String} {quote? : Option Char} {seen : Nat}
    {text edited : List Char} (h : Edited f quote? seen text edited) :
    edited = replaceFrom f seen (scanFrom (.ofQuote quote?) text) := by
  induction h with
  | nil quote? seen => cases quote? <;> rfl
  | copied hc _ ih =>
    rw [scanFrom, step_ofQuote hc, ih]
    rfl
  | mark _ ih =>
    rw [ih]
    rfl
  | @number seen digits text edited hdigits htext _ ih =>
    obtain ⟨htake, hdrop⟩ := takeWhile_isDigit_append hdigits htext
    have hscan : scanFrom (.ofQuote none) ('$' :: (digits ++ text)) =
        .dollar digits :: scanFrom .outside text := by
      have hnumber := scanFrom_dollar [] (digits ++ text)
      rwa [htake, hdrop] at hnumber
    rw [hscan, ih]
    rfl

/-- Every text can be edited. -/
theorem exists_edited (f : Placeholder → Option String) (quote? : Option Char) (seen : Nat)
    (text : List Char) : ∃ edited, Edited f quote? seen text edited := by
  match text with
  | [] => exact ⟨[], .nil quote? seen⟩
  | c :: cs =>
    by_cases hcopied : quote? = none → c ≠ '?' ∧ c ≠ '$'
    · obtain ⟨edited, hedited⟩ := exists_edited f (nextQuote quote? c) seen cs
      exact ⟨_, .copied hcopied hedited⟩
    · obtain ⟨rfl, hc⟩ := Classical.not_imp.mp hcopied
      by_cases hmark : c = '?'
      · subst hmark
        obtain ⟨edited, hedited⟩ := exists_edited f none (seen + 1) cs
        exact ⟨_, .mark hedited⟩
      · have hdollar : c = '$' := by simpa [hmark] using hc
        subst hdollar
        obtain ⟨edited, hedited⟩ := exists_edited f none seen (cs.dropWhile Char.isDigit)
        have hdigits : ∀ c ∈ cs.takeWhile Char.isDigit, c.isDigit = true :=
          fun c hc => List.mem_takeWhile_imp hc
        have hrest : ∀ c ∈ (cs.dropWhile Char.isDigit).head?, c.isDigit = false := by
          intro c hc
          have hnot := List.head?_dropWhile_not Char.isDigit cs
          rw [hc] at hnot
          exact hnot
        have hnumber := Edited.number hdigits hrest hedited
        rw [List.takeWhile_append_dropWhile] at hnumber
        exact ⟨_, hnumber⟩
termination_by text.length
decreasing_by
  · exact Nat.lt_succ_self _
  · exact Nat.lt_succ_self _
  · exact Nat.lt_succ_of_le (List.length_dropWhile_le _ _)

theorem edited_iff (f : Placeholder → Option String) (sql : String) (edited : List Char) :
    Edited f none 0 sql.toList edited ↔ edited = (replace f sql).toList := by
  rw [replace, String.toList_ofList]
  constructor
  · exact Edited.eq_replaceFrom
  · rintro rfl
    obtain ⟨edited, hedited⟩ := exists_edited f none 0 sql.toList
    have heq := hedited.eq_replaceFrom
    subst heq
    exact hedited

/-! ## Texts put together -/

/-- The text ends in a `$` outside quotes with digits, or nothing, after it. -/
def EndsInNumber (sql : String) : Prop :=
  ∃ front digits, sql.toList = front ++ '$' :: digits ∧ (∀ c ∈ digits, c.isDigit = true) ∧
    front.foldl nextQuote none = none

/-- The text begins with a digit. -/
def StartsWithDigit (sql : String) : Prop :=
  ∃ c ∈ sql.toList.head?, c.isDigit = true

/-- The placeholder with `n` marks before the text it stands in. -/
def shift (n : Nat) : Placeholder → Placeholder
  | .positional index => .positional (n + index)
  | .numbered index => .numbered index

theorem after_append_singleton (m : Mode) (cs : List Char) (c : Char) :
    m.after (cs ++ [c]) = ((m.after cs).step c).1 := by
  rw [Mode.after_append]
  rfl

theorem stepOutside_eq_dollar {c : Char} {digits : List Char}
    (h : (Mode.stepOutside c).1 = .dollar digits) : c = '$' ∧ digits = [] := by
  unfold Mode.stepOutside at h
  split at h
  · cases h
  split at h
  · cases h
  split at h
  · rename_i hdollar
    cases h
    exact ⟨hdollar, rfl⟩
  · cases h

/-- The scanner is in a number only at the end of a number. -/
theorem exists_of_after_eq_dollar {cs digits : List Char}
    (h : Mode.after .outside cs = .dollar digits) :
    ∃ front, cs = front ++ '$' :: digits ∧ (∀ c ∈ digits, c.isDigit = true) ∧
      front.foldl nextQuote none = none := by
  induction cs using List.reverseRecOn generalizing digits with
  | nil => cases h
  | append_singleton cs c ih =>
    rw [after_append_singleton] at h
    -- a `$` begins a number wherever no quote is open
    have hbegin : (Mode.after .outside cs).quote? = none → (Mode.stepOutside c).1 = .dollar digits →
        ∃ front, cs ++ [c] = front ++ '$' :: digits ∧ (∀ c ∈ digits, c.isDigit = true) ∧
          front.foldl nextQuote none = none := by
      intro hquote hstep
      obtain ⟨rfl, rfl⟩ := stepOutside_eq_dollar hstep
      rw [quote_after] at hquote
      exact ⟨cs, rfl, by simp, hquote⟩
    cases hmode : Mode.after .outside cs with
    | outside =>
      rw [hmode] at h hbegin
      exact hbegin rfl h
    | quoted quote =>
      rw [hmode, Mode.step] at h
      split at h <;> cases h
    | dollar before =>
      by_cases hc : c.isDigit = true
      · rw [hmode, Mode.step, if_pos hc] at h
        cases h
        obtain ⟨front, rfl, hdigits, hquote⟩ := ih hmode
        refine ⟨front, by simp, ?_, hquote⟩
        rw [List.forall_mem_append]
        exact ⟨hdigits, by simpa using hc⟩
      · rw [hmode] at hbegin
        rw [hmode, Mode.step, if_neg hc] at h
        exact hbegin rfl h

/-- No number runs from the first text into the second. -/
theorem scan_append {a b : String} (hclosed : QuoteClosed a)
    (hcut : ¬(EndsInNumber a ∧ StartsWithDigit b)) : scan (a ++ b) = scan a ++ scan b := by
  rw [scan, String.toList_append, scanFrom_append, scan, scanFrom_eq _ a.toList, List.append_assoc]
  congr 1
  cases hmode : Mode.after .outside a.toList with
  | outside => rfl
  | quoted quote =>
    rw [QuoteClosed, hmode] at hclosed
    cases hclosed
  | dollar digits =>
    obtain ⟨front, hfront⟩ := exists_of_after_eq_dollar hmode
    have hends : EndsInNumber a := ⟨front, digits, hfront⟩
    have hnone : ∀ c ∈ ([] : List Char), c.isDigit = true := fun c hc => absurd hc List.not_mem_nil
    have hrest : ∀ c ∈ b.toList.head?, c.isDigit = false := by
      intro c hc
      by_contra hdigit
      exact hcut ⟨hends, c, hc, by simpa using hdigit⟩
    obtain ⟨htake, hdrop⟩ := takeWhile_isDigit_append hnone hrest
    rw [List.nil_append] at htake hdrop
    rw [scanFrom_dollar, htake, hdrop, List.append_nil]
    rfl

theorem replaceFrom_append (f : Placeholder → Option String) (seen : Nat) (ts us : List Token) :
    replaceFrom f seen (ts ++ us) =
      replaceFrom f seen ts ++ replaceFrom f (seen + ts.countP (· == .mark)) us := by
  induction ts generalizing seen with
  | nil => rfl
  | cons t ts ih =>
    cases t with
    | char c => simp [replaceFrom, ih]
    | mark =>
      simp only [List.cons_append, replaceFrom, ih, List.append_assoc, List.countP_cons,
        beq_self_eq_true, if_true]
      rw [Nat.add_assoc, Nat.add_comm 1]
    | dollar digits => simp [replaceFrom, ih]

theorem replaceFrom_shift (f : Placeholder → Option String) (n seen : Nat) (ts : List Token) :
    replaceFrom f (n + seen) ts = replaceFrom (f ∘ shift n) seen ts := by
  induction ts generalizing seen with
  | nil => rfl
  | cons t ts ih =>
    cases t with
    | char c => simp [replaceFrom, ih]
    | mark =>
      have hmarks : n + seen + 1 = n + (seen + 1) := Nat.add_assoc n seen 1
      rw [replaceFrom, replaceFrom, hmarks, ih]
      rfl
    | dollar digits =>
      rw [replaceFrom, replaceFrom, ih]
      rfl

end Placeholder

open Placeholder

/-- Replacement edits a text by the three rules and copies all else, so without replacements a text
stays. It may be done in parts wherever a text is cut outside quotes and not inside a number, when
the marks of the second part are counted on from those of the first; the numbers of marks add up. -/
theorem replacement_exact (f : Placeholder → Option String) :
    (∀ (sql : String) (edited : List Char),
      Edited f none 0 sql.toList edited ↔ edited = (replace f sql).toList) ∧
    (∀ sql : String, replace (fun _ => none) sql = sql) ∧
    ∀ a b : String, QuoteClosed a → ¬(EndsInNumber a ∧ StartsWithDigit b) →
      replace f (a ++ b) = replace f a ++ replace (f ∘ shift (count a)) b ∧
      count (a ++ b) = count a + count b := by
  refine ⟨edited_iff f, fun sql => replace_eq_self fun _ _ => rfl, ?_⟩
  intro a b hclosed hcut
  have hscan := scan_append hclosed hcut
  constructor
  · have hmarks := replaceFrom_shift f (count a) 0 (scan b)
    rw [Nat.add_zero] at hmarks
    rw [replace, hscan, replaceFrom_append, Nat.zero_add, ← count, hmarks, String.ofList_append]
    rfl
  · rw [count, hscan, List.countP_append]
    rfl

/-- The number `$12` ends where a blank follows it, and the mark of the second text is the third. -/
theorem replacement_exact_sample :
    (QuoteClosed "a = ? AND '?' = ? AND b = $12" ∧
      ¬(EndsInNumber "a = ? AND '?' = ? AND b = $12" ∧ StartsWithDigit " OR c = ?")) ∧
    replace (fun p => some (toString p.index)) ("a = ? AND '?' = ? AND b = $12" ++ " OR c = ?") =
      "a = 1 AND '?' = 2 AND b = 12" ++ " OR c = 3" ∧
    count ("a = ? AND '?' = ? AND b = $12" ++ " OR c = ?") = 3 := by
  have hclosed : QuoteClosed "a = ? AND '?' = ? AND b = $12" := by decide +kernel
  have hcut : ¬(EndsInNumber "a = ? AND '?' = ? AND b = $12" ∧ StartsWithDigit " OR c = ?") := by
    rintro ⟨-, c, hc, hdigit⟩
    cases hc
    cases hdigit
  obtain ⟨-, -, hparts⟩ := replacement_exact fun p => some (toString p.index)
  obtain ⟨hreplace, hcount⟩ := hparts _ _ hclosed hcut
  refine ⟨⟨hclosed, hcut⟩, ?_, ?_⟩
  · rw [hreplace]
    decide +kernel
  · rw [hcount]
    decide +kernel

end SqlSelect
