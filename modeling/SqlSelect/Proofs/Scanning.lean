import SqlSelect.Emission
import SqlSelect.Statement
import SqlSelect.Text.Blank
import Mathlib.Data.List.DropRight

/-!
# Scanning a text in parts

The scanner carries its mode from one part of a text to the next, so the tokens of a text are those
of its first part and those of the second part read from the mode in which the first one ends. The
tokens spell the text. On these two facts rests every statement about a text that is put together
from pieces.

Three conditions on a piece matter: that it ends outside quotes, that no `$` and that no `?` stands
outside its quotes. A text that meets all three is inert: the scanner finds characters only.
-/

namespace SqlSelect.Placeholder

/-- The tokens completed while a text is read; a number at its end may still go on. -/
def Mode.completed (m : Mode) : List Char → List Token
  | [] => []
  | c :: cs => (m.step c).2 ++ (m.step c).1.completed cs

theorem Mode.after_append (m : Mode) (a b : List Char) :
    m.after (a ++ b) = (m.after a).after b := by
  induction a generalizing m with
  | nil => rfl
  | cons c cs ih => exact ih _

theorem Mode.completed_append (m : Mode) (a b : List Char) :
    m.completed (a ++ b) = m.completed a ++ (m.after a).completed b := by
  induction a generalizing m with
  | nil => rfl
  | cons c cs ih =>
    simp only [List.cons_append, Mode.completed, Mode.after, ih, List.append_assoc]

theorem scanFrom_eq (m : Mode) (cs : List Char) :
    scanFrom m cs = m.completed cs ++ (m.after cs).finish := by
  induction cs generalizing m with
  | nil => rfl
  | cons c cs ih => simp only [scanFrom, Mode.completed, Mode.after, ih, List.append_assoc]

theorem scanFrom_append (m : Mode) (a b : List Char) :
    scanFrom m (a ++ b) = m.completed a ++ scanFrom (m.after a) b := by
  rw [scanFrom_eq, scanFrom_eq, Mode.completed_append, Mode.after_append, List.append_assoc]

/-- What the scanner has read but not yet given out as a token. -/
def Mode.pending : Mode → List Char
  | .dollar digits => '$' :: digits
  | _ => []

theorem spelling_stepOutside (c : Char) :
    (Mode.stepOutside c).2.flatMap Token.spelling ++ (Mode.stepOutside c).1.pending = [c] := by
  unfold Mode.stepOutside
  split
  · rfl
  · split
    · rename_i h
      rw [h]
      rfl
    · split
      · rename_i h
        rw [h]
        rfl
      · rfl

theorem spelling_step (m : Mode) (c : Char) :
    (m.step c).2.flatMap Token.spelling ++ (m.step c).1.pending = m.pending ++ [c] := by
  cases m with
  | outside => exact spelling_stepOutside c
  | quoted q =>
    simp only [Mode.step]
    split <;> rfl
  | dollar digits =>
    simp only [Mode.step]
    split
    · rfl
    · rw [List.flatMap_cons, List.append_assoc, spelling_stepOutside c]
      rfl

theorem spelling_finish (m : Mode) : m.finish.flatMap Token.spelling = m.pending := by
  cases m <;> simp [Mode.finish, Mode.pending, Token.spelling]

theorem spelling_scanFrom (m : Mode) (cs : List Char) :
    (scanFrom m cs).flatMap Token.spelling = m.pending ++ cs := by
  induction cs generalizing m with
  | nil => rw [scanFrom, spelling_finish, List.append_nil]
  | cons c cs ih =>
    rw [scanFrom, List.flatMap_append, ih, ← List.append_assoc, spelling_step, List.append_assoc]
    rfl

/-- The tokens of a text spell the text. -/
theorem spelling_scan (sql : String) : (scan sql).flatMap Token.spelling = sql.toList :=
  spelling_scanFrom .outside sql.toList

/-! ## Quotes, numbers and marks -/

/-- The quote that is open. -/
def Mode.quote? : Mode → Option Char
  | .quoted quote => some quote
  | _ => none

def Token.isDollar : Token → Bool
  | .dollar _ => true
  | _ => false

/-- Every quote of the text is closed at its end. -/
def QuoteClosed (sql : String) : Prop :=
  (Mode.after .outside sql.toList).quote? = none

/-- No `$` stands outside quotes. -/
def DollarFree (sql : String) : Prop :=
  ∀ t ∈ scan sql, t.isDollar = false

/-- No `?` stands outside quotes. -/
def MarkFree (sql : String) : Prop :=
  Token.mark ∉ scan sql

instance (sql : String) : Decidable (QuoteClosed sql) :=
  inferInstanceAs (Decidable (_ = _))

instance (sql : String) : Decidable (DollarFree sql) :=
  inferInstanceAs (Decidable (∀ t ∈ scan sql, t.isDollar = false))

instance (sql : String) : Decidable (MarkFree sql) :=
  inferInstanceAs (Decidable (¬ _))

theorem isQuote_of_step {m : Mode} {c q : Char} (hm : ∀ q, m = .quoted q → isQuote q = true)
    (h : (m.step c).1 = .quoted q) : isQuote q = true := by
  have hout : ∀ c : Char, (Mode.stepOutside c).1 = .quoted q → isQuote q = true := by
    intro c hc
    unfold Mode.stepOutside at hc
    split at hc
    · rename_i hq
      cases hc
      exact hq
    · split at hc
      · cases hc
      · split at hc <;> cases hc
  cases m with
  | outside => exact hout c h
  | quoted quote =>
    simp only [Mode.step] at h
    split at h
    · cases h
    · exact hm q h
  | dollar digits =>
    simp only [Mode.step] at h
    split at h
    · cases h
    · exact hout c h

/-- Only quotes are ever open. -/
theorem isQuote_of_after {m : Mode} {cs : List Char} {q : Char}
    (hm : ∀ q, m = .quoted q → isQuote q = true) (h : m.after cs = .quoted q) :
    isQuote q = true := by
  induction cs generalizing m with
  | nil => exact hm q h
  | cons c cs ih => exact ih (fun q hq => isQuote_of_step hm hq) h

/-- A quote stays open until it is met again. -/
theorem after_quoted_of_notMem {q : Char} {cs : List Char} (h : q ∉ cs) :
    Mode.after (.quoted q) cs = .quoted q := by
  induction cs with
  | nil => rfl
  | cons c cs ih =>
    have hc : c ≠ q := fun hc => h (hc ▸ List.mem_cons_self)
    simp only [Mode.after, Mode.step, if_neg hc]
    exact ih fun hq => h (List.mem_cons_of_mem _ hq)

theorem after_ne_dollar {sql : String} (hd : DollarFree sql) (digits : List Char) :
    Mode.after .outside sql.toList ≠ .dollar digits := by
  intro h
  have hmem : Token.dollar digits ∈ scan sql := by
    rw [scan, scanFrom_eq, h]
    simp [Mode.finish]
  have := hd _ hmem
  simp [Token.isDollar] at this

/-- Without a `$` outside quotes, every token is completed before the text ends. -/
theorem scan_eq_completed {sql : String} (hd : DollarFree sql) :
    scan sql = Mode.completed .outside sql.toList := by
  rw [scan, scanFrom_eq]
  cases h : Mode.after .outside sql.toList with
  | outside => exact List.append_nil _
  | quoted quote => exact List.append_nil _
  | dollar digits => exact absurd h (after_ne_dollar hd digits)

/-- Without a `$` outside quotes, a closed text leaves the scanner as it found it. -/
theorem after_eq_outside {sql : String} (hq : QuoteClosed sql) (hd : DollarFree sql) :
    Mode.after .outside sql.toList = .outside := by
  cases h : Mode.after .outside sql.toList with
  | outside => rfl
  | quoted q => simp [QuoteClosed, h, Mode.quote?] at hq
  | dollar digits => exact absurd h (after_ne_dollar hd digits)

/-- Reading the text from `m` gives its characters as they are and ends in `m'`. -/
structure Passes (m : Mode) (cs : List Char) (m' : Mode) : Prop where
  completed_eq : m.completed cs = cs.map .char
  after_eq : m.after cs = m'

theorem Passes.nil (m : Mode) : Passes m [] m :=
  ⟨rfl, rfl⟩

theorem Passes.scanFrom_eq {m m' : Mode} {cs : List Char} (h : Passes m cs m')
    (hm : m'.finish = []) : scanFrom m cs = cs.map .char := by
  rw [Placeholder.scanFrom_eq, h.completed_eq, h.after_eq, hm, List.append_nil]

theorem Passes.append {m m' m'' : Mode} {a b : List Char} (ha : Passes m a m')
    (hb : Passes m' b m'') : Passes m (a ++ b) m'' := by
  constructor
  · rw [Mode.completed_append, ha.completed_eq, ha.after_eq, hb.completed_eq, List.map_append]
  · rw [Mode.after_append, ha.after_eq, hb.after_eq]

theorem Passes.singleton {m m' : Mode} {c : Char} (h : m.step c = (m', [.char c])) :
    Passes m [c] m' := by
  constructor
  · simp [Mode.completed, h]
  · simp [Mode.after, h]

theorem Passes.cons {m m' m'' : Mode} {c : Char} {cs : List Char}
    (h : m.step c = (m', [.char c])) (hs : Passes m' cs m'') : Passes m (c :: cs) m'' :=
  (Passes.singleton h).append hs

/-- A character that the scanner passes over when it is outside quotes. -/
def isOrdinary (c : Char) : Bool :=
  !isQuote c && c != '?' && c != '$'

/-- A class of characters without quotes, `?` and `$` is ordinary. -/
theorem isOrdinary_of_class {p : Char → Bool}
    (hp : ['\x22', '\x27', '\x60', '?', '$'].any p = false) {c : Char} (hc : p c = true) :
    isOrdinary c = true := by
  by_contra hn
  simp only [isOrdinary, isQuote, Bool.and_eq_true, Bool.not_eq_true', Bool.or_eq_false_iff,
    beq_eq_false_iff_ne, bne_iff_ne, ne_eq, not_and_or, not_not] at hn
  rw [List.any_eq_false] at hp
  have hf : ¬p c = true := by
    rcases hn with ((((rfl | rfl) | rfl) | rfl) | rfl) <;> exact hp _ (by simp)
  exact hf hc

theorem isOrdinary_of_isBlank {c : Char} (h : Text.isBlank c = true) : isOrdinary c = true :=
  isOrdinary_of_class (by decide) h

theorem step_ordinary {c : Char} (h : isOrdinary c = true) :
    Mode.step .outside c = (.outside, [.char c]) := by
  simp only [isOrdinary, Bool.and_eq_true, Bool.not_eq_true', bne_iff_ne, ne_eq] at h
  obtain ⟨⟨hq, hm⟩, hd⟩ := h
  simp [Mode.step, Mode.stepOutside, hq, hm, hd]

theorem passes_ordinary {cs : List Char} (h : ∀ c ∈ cs, isOrdinary c = true) :
    Passes .outside cs .outside := by
  induction cs with
  | nil => exact Passes.nil _
  | cons c cs ih =>
    have hc := step_ordinary (h c List.mem_cons_self)
    exact Passes.cons hc (ih fun c hc => h c (List.mem_cons_of_mem _ hc))

/-- Text in which the scanner finds nothing and after which it is outside quotes. -/
def Inert (sql : String) : Prop :=
  Passes .outside sql.toList .outside

instance (sql : String) : Decidable (Inert sql) :=
  decidable_of_iff (Mode.completed .outside sql.toList = sql.toList.map .char ∧
      Mode.after .outside sql.toList = .outside)
    ⟨fun h => ⟨h.1, h.2⟩, fun h => ⟨h.1, h.2⟩⟩

theorem Inert.append {a b : String} (ha : Inert a) (hb : Inert b) : Inert (a ++ b) := by
  have h := Passes.append ha hb
  rwa [← String.toList_append] at h

theorem Inert.empty : Inert "" :=
  Passes.nil .outside

theorem Inert.scan_eq {sql : String} (h : Inert sql) : scan sql = sql.toList.map .char :=
  Passes.scanFrom_eq h rfl

theorem placeholdersFrom_map_char (seen : Nat) (cs : List Char) :
    placeholdersFrom seen (cs.map .char) = [] := by
  induction cs with
  | nil => rfl
  | cons c cs ih => exact ih

/-- Tokens that are characters are determined by what they spell. -/
theorem eq_map_char_of_forall {ts : List Token} (h : ∀ t ∈ ts, ∃ c, t = .char c) :
    ts = (ts.flatMap Token.spelling).map .char := by
  induction ts with
  | nil => rfl
  | cons t ts ih =>
    obtain ⟨c, rfl⟩ := h t List.mem_cons_self
    have htail := ih fun t ht => h t (List.mem_cons_of_mem _ ht)
    simp only [List.flatMap_cons, Token.spelling, List.singleton_append, List.map_cons]
    rw [← htail]

/-- A text is inert exactly when it is closed and holds no `$` and no `?` outside quotes. -/
theorem inert_iff (sql : String) : Inert sql ↔ QuoteClosed sql ∧ DollarFree sql ∧ MarkFree sql := by
  constructor
  · intro h
    have hs := h.scan_eq
    refine ⟨by simp [QuoteClosed, h.after_eq, Mode.quote?], ?_, by simp [MarkFree, hs]⟩
    intro t ht
    rw [hs, List.mem_map] at ht
    obtain ⟨c, _, rfl⟩ := ht
    rfl
  · intro h
    obtain ⟨hq, hd, hm⟩ := h
    have ha := after_eq_outside hq hd
    refine ⟨?_, ha⟩
    have hchar : ∀ t ∈ scan sql, ∃ c, t = .char c := by
      intro t ht
      cases t with
      | char c => exact ⟨c, rfl⟩
      | mark => exact absurd ht hm
      | dollar digits => simpa [Token.isDollar] using hd _ ht
    rw [← scan_eq_completed hd, ← spelling_scan sql]
    exact eq_map_char_of_forall hchar

end SqlSelect.Placeholder
