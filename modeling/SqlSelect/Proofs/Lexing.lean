import SqlSelect.Proofs.Draft
import Mathlib.Tactic.SplitIfs

/-!
# The tokens of SQL text

Text is read as SQL reads it: a part in quotes is one token, whatever it holds, with its doubled
quotes undone; letters, digits and underscores form words, and signs of comparison form operators;
blanks only separate. The reader is a machine over characters, so a text that is put together from
parts has the tokens of its parts, provided that no word, operator or quoted part runs over a seam.

`Spells text tokens` says that the text has these tokens and ends outside quotes. It is decided by
running the machine, and for texts put together it follows from `Spells.append`.
-/

namespace SqlSelect.Sql

/-- The words that are not names. -/
inductive Keyword where
  | and
  | or
  | not
  | is
  | null
  | between
  | in
  | like
  | lower
  | as
  | select
  | from
  | union
  | intersect
  | except
  deriving DecidableEq

def Keyword.letters : Keyword → List Char
  | and => ['A', 'N', 'D']
  | or => ['O', 'R']
  | not => ['N', 'O', 'T']
  | is => ['I', 'S']
  | null => ['N', 'U', 'L', 'L']
  | between => ['B', 'E', 'T', 'W', 'E', 'E', 'N']
  | «in» => ['I', 'N']
  | like => ['L', 'I', 'K', 'E']
  | lower => ['L', 'O', 'W', 'E', 'R']
  | as => ['A', 'S']
  | select => ['S', 'E', 'L', 'E', 'C', 'T']
  | «from» => ['F', 'R', 'O', 'M']
  | union => ['U', 'N', 'I', 'O', 'N']
  | intersect => ['I', 'N', 'T', 'E', 'R', 'S', 'E', 'C', 'T']
  | except => ['E', 'X', 'C', 'E', 'P', 'T']

def Keyword.all : List Keyword :=
  [and, or, not, is, null, between, «in», like, lower, as, select, «from», union, intersect, except]

/-- A piece of SQL text. -/
inductive Token where
  | quoted (quote : Char) (text : List Char)
  | keyword (word : Keyword)
  | word (letters : List Char)
  | operator (signs : List Char)
  | openParen
  | closeParen
  | comma
  | dot
  | star
  | mark
  | other (c : Char)
  | unclosed (quote : Char)
  deriving DecidableEq

/-- A word is a keyword in any case of its letters. -/
def Token.ofWord (letters : List Char) : Token :=
  match Keyword.all.find? (·.letters == letters.map Char.toUpper) with
  | some known => .keyword known
  | none => .word letters

def Token.ofSign : Char → Token
  | '(' => .openParen
  | ')' => .closeParen
  | ',' => .comma
  | '.' => .dot
  | '*' => .star
  | '?' => .mark
  | c => .other c

def isWordPart (c : Char) : Bool :=
  Text.isAlphanumeric c || c == '_'

def isOperatorPart (c : Char) : Bool :=
  c == '=' || c == '<' || c == '>' || c == '!'

/-- The token that is being read. After a quote inside a quoted part it is open whether the part is
at its end or the quote is doubled. -/
inductive Lexer where
  | idle
  | word (letters : List Char)
  | operator (signs : List Char)
  | quoted (quote : Char) (text : List Char)
  | closing (quote : Char) (text : List Char)
  deriving DecidableEq

namespace Lexer

/-- One character between tokens. -/
def start (c : Char) : Lexer × List Token :=
  if Text.isBlank c then (.idle, [])
  else if isWordPart c then (.word [c], [])
  else if isOperatorPart c then (.operator [c], [])
  else if Placeholder.isQuote c then (.quoted c [], [])
  else (.idle, [.ofSign c])

/-- The token that the end of the text completes. -/
def finish : Lexer → List Token
  | .idle => []
  | .word letters => [.ofWord letters]
  | .operator signs => [.operator signs]
  | .quoted quote _ => [.unclosed quote]
  | .closing quote text => [.quoted quote text]

/-- Whether a character belongs to the token that is being read. -/
def extends? (c : Char) : Lexer → Option Lexer
  | .idle => none
  | .word letters => if isWordPart c then some (.word (letters ++ [c])) else none
  | .operator signs => if isOperatorPart c then some (.operator (signs ++ [c])) else none
  | .quoted quote text =>
    some (if c = quote then .closing quote text else .quoted quote (text ++ [c]))
  | .closing quote text => if c = quote then some (.quoted quote (text ++ [c])) else none

/-- One character: the state after it and the tokens it completes. -/
def step (l : Lexer) (c : Char) : Lexer × List Token :=
  match l.extends? c with
  | some l' => (l', [])
  | none => ((start c).1, l.finish ++ (start c).2)

def after (l : Lexer) : List Char → Lexer
  | [] => l
  | c :: cs => (l.step c).1.after cs

/-- The tokens completed while a text is read. -/
def completed (l : Lexer) : List Char → List Token
  | [] => []
  | c :: cs => (l.step c).2 ++ (l.step c).1.completed cs

theorem after_append (l : Lexer) (a b : List Char) : l.after (a ++ b) = (l.after a).after b := by
  induction a generalizing l with
  | nil => rfl
  | cons c cs ih => exact ih _

theorem completed_append (l : Lexer) (a b : List Char) :
    l.completed (a ++ b) = l.completed a ++ (l.after a).completed b := by
  induction a generalizing l with
  | nil => rfl
  | cons c cs ih =>
    simp only [List.cons_append, completed, after, ih, List.append_assoc]

/-- No quoted part is open. -/
def isClosed : Lexer → Bool
  | .quoted _ _ => false
  | _ => true

/-- The quote of the part that is being read. -/
def quote? : Lexer → Option Char
  | .quoted quote _ | .closing quote _ => some quote
  | _ => none

theorem quote_extends {l l' : Lexer} {c : Char} (h : l.extends? c = some l') :
    l'.quote? = l.quote? := by
  cases l with
  | idle => cases h
  | word letters | operator signs | closing quote text =>
    simp only [extends?, Option.ite_none_right_eq_some, Option.some.injEq] at h
    rw [← h.2]
    rfl
  | quoted quote text =>
    simp only [extends?, Option.some.injEq] at h
    rw [← h]
    split <;> rfl

theorem isQuote_start {c quote : Char} (h : quote ∈ (start c).1.quote?) :
    Placeholder.isQuote quote = true := by
  simp only [start] at h
  split_ifs at h with _ _ _ hc
  all_goals cases h
  exact hc

theorem isQuote_step {l : Lexer} (h : ∀ quote ∈ l.quote?, Placeholder.isQuote quote = true)
    (c : Char) : ∀ quote ∈ (l.step c).1.quote?, Placeholder.isQuote quote = true := by
  unfold step
  split
  · rename_i l' hl'
    rw [quote_extends hl']
    exact h
  · exact fun quote => isQuote_start

theorem isQuote_after {l : Lexer} (h : ∀ quote ∈ l.quote?, Placeholder.isQuote quote = true)
    (cs : List Char) : ∀ quote ∈ (l.after cs).quote?, Placeholder.isQuote quote = true := by
  induction cs generalizing l with
  | nil => exact h
  | cons c cs ih => exact ih (isQuote_step h c)

/-- A character that belongs to no token before it. -/
def isSeparator (c : Char) : Bool :=
  !isWordPart c && !isOperatorPart c && !Placeholder.isQuote c

/-- A separator completes the token before it and is read as if there had been none. -/
theorem step_separator {l : Lexer} (h : ∀ quote ∈ l.quote?, Placeholder.isQuote quote = true)
    (hl : l.isClosed = true) {c : Char} (hc : isSeparator c = true) :
    l.step c = ((step .idle c).1, l.finish ++ (step .idle c).2) := by
  simp only [isSeparator, Bool.and_eq_true, Bool.not_eq_true'] at hc
  obtain ⟨⟨hword, hoperator⟩, hquote⟩ := hc
  have hnone : l.extends? c = none := by
    cases l with
    | idle => rfl
    | word letters => simp [extends?, hword]
    | operator signs => simp [extends?, hoperator]
    | quoted quote text => cases hl
    | closing quote text =>
      have hne : c ≠ quote := by
        rintro rfl
        rw [h c rfl] at hquote
        cases hquote
      simp [extends?, hne]
  rw [step, hnone]
  rfl

end Lexer

/-- The tokens of a text. -/
def tokens (text : String) : List Token :=
  Lexer.completed .idle text.toList ++ (Lexer.after .idle text.toList).finish

/-! ## Texts put together -/

/-- The text has these tokens and ends outside quotes. -/
structure Spells (text : String) (ts : List Token) : Prop where
  tokens_eq : tokens text = ts
  closed : (Lexer.after .idle text.toList).isClosed = true

/-- The text has these tokens and no token is open at its end. -/
structure Ends (text : String) (ts : List Token) : Prop where
  completed_eq : Lexer.completed .idle text.toList = ts
  after_eq : Lexer.after .idle text.toList = .idle

/-- The text begins with a character that belongs to no token before it. -/
def Separates (text : String) : Prop :=
  (text.toList.head?.any Lexer.isSeparator) = true

instance (text : String) (ts : List Token) : Decidable (Spells text ts) :=
  decidable_of_iff (tokens text = ts ∧ (Lexer.after .idle text.toList).isClosed = true)
    ⟨fun h => ⟨h.1, h.2⟩, fun h => ⟨h.1, h.2⟩⟩

instance (text : String) (ts : List Token) : Decidable (Ends text ts) :=
  decidable_of_iff (Lexer.completed .idle text.toList = ts ∧ Lexer.after .idle text.toList = .idle)
    ⟨fun h => ⟨h.1, h.2⟩, fun h => ⟨h.1, h.2⟩⟩

instance (text : String) : Decidable (Separates text) :=
  inferInstanceAs (Decidable (_ = _))

theorem Ends.append_spells {a b : String} {ts us : List Token} (ha : Ends a ts)
    (hb : Spells b us) : Spells (a ++ b) (ts ++ us) where
  tokens_eq := by
    rw [← hb.tokens_eq, tokens, tokens, String.toList_append, Lexer.completed_append,
      Lexer.after_append, ha.completed_eq, ha.after_eq, List.append_assoc]
  closed := by
    rw [String.toList_append, Lexer.after_append, ha.after_eq]
    exact hb.closed

/-- Reading on at a separator is reading anew. -/
theorem Spells.read_on {a b : String} {ts : List Token} (ha : Spells a ts) (hb : Separates b) :
    Lexer.completed .idle (a ++ b).toList = ts ++ Lexer.completed .idle b.toList ∧
      Lexer.after .idle (a ++ b).toList = Lexer.after .idle b.toList := by
  have hquote := Lexer.isQuote_after (l := .idle) (fun _ h => by cases h) a.toList
  rw [String.toList_append, Lexer.completed_append, Lexer.after_append, ← ha.tokens_eq, tokens]
  unfold Separates at hb
  cases hchars : b.toList with
  | nil =>
    rw [hchars] at hb
    cases hb
  | cons c cs =>
    rw [hchars] at hb
    have hstep := Lexer.step_separator hquote ha.closed (c := c) hb
    simp only [Lexer.completed, Lexer.after, hstep, List.append_assoc, and_self]

theorem Spells.append_ends {a b : String} {ts us : List Token} (ha : Spells a ts)
    (hb : Ends b us) (hseparates : Separates b) : Ends (a ++ b) (ts ++ us) where
  completed_eq := by rw [(ha.read_on hseparates).1, hb.completed_eq]
  after_eq := by rw [(ha.read_on hseparates).2, hb.after_eq]

theorem Spells.append {a b : String} {ts us : List Token} (ha : Spells a ts)
    (hb : Spells b us) (hseparates : Separates b) : Spells (a ++ b) (ts ++ us) where
  tokens_eq := by
    rw [tokens, (ha.read_on hseparates).1, (ha.read_on hseparates).2, List.append_assoc,
      ← hb.tokens_eq, tokens]
  closed := by
    rw [(ha.read_on hseparates).2]
    exact hb.closed

theorem Separates.append {a : String} (h : Separates a) (b : String) : Separates (a ++ b) := by
  unfold Separates at h ⊢
  rw [String.toList_append]
  cases hchars : a.toList with
  | nil =>
    rw [hchars] at h
    cases h
  | cons c cs =>
    rw [hchars] at h
    exact h

/-! ## Quoted parts -/

section Quoted

variable {quote : Char}

theorem Lexer.after_doubled (text cs : List Char) :
    Lexer.after (.quoted quote text)
        (cs.flatMap fun c => if c = quote then [quote, quote] else [c]) =
      .quoted quote (text ++ cs) := by
  induction cs generalizing text with
  | nil => simp [after]
  | cons c cs ih =>
    rw [List.flatMap_cons, after_append]
    by_cases hc : c = quote
    · simp [hc, after, step, extends?, ih]
    · simp [hc, after, step, extends?, ih]

theorem Lexer.completed_doubled (text cs : List Char) :
    Lexer.completed (.quoted quote text)
      (cs.flatMap fun c => if c = quote then [quote, quote] else [c]) = [] := by
  induction cs generalizing text with
  | nil => rfl
  | cons c cs ih =>
    rw [List.flatMap_cons, completed_append]
    by_cases hc : c = quote
    · simp [hc, after, completed, step, extends?, ih]
    · simp [hc, after, completed, step, extends?, ih]

theorem Lexer.start_quote (hq : Placeholder.isQuote quote = true) :
    Lexer.start quote = (.quoted quote [], []) := by
  simp only [Placeholder.isQuote, Bool.or_eq_true, beq_iff_eq] at hq
  rcases hq with (rfl | rfl) | rfl <;> decide

/-- A text in quotes is one token. -/
theorem spells_enclose (hq : Placeholder.isQuote quote = true) (cs : List Char) :
    Spells (String.ofList (enclose quote cs)) [.quoted quote cs] := by
  have hopen : Lexer.step .idle quote = (.quoted quote [], []) := by
    simp [Lexer.step, Lexer.extends?, Lexer.finish, Lexer.start_quote hq]
  have hafter : Lexer.after .idle (enclose quote cs) = .closing quote cs := by
    rw [enclose, Lexer.after_append]
    simp only [Lexer.after, hopen, Lexer.after_doubled]
    simp [Lexer.step, Lexer.extends?]
  have hcompleted : Lexer.completed .idle (enclose quote cs) = [] := by
    rw [enclose, Lexer.completed_append]
    simp only [Lexer.completed, Lexer.after, hopen, Lexer.after_doubled, Lexer.completed_doubled]
    simp [Lexer.step, Lexer.extends?]
  constructor
  · rw [tokens, String.toList_ofList, hcompleted, hafter]
    rfl
  · rw [String.toList_ofList, hafter]
    rfl

end Quoted

/-! ## Blanks at the ends -/

/-- The blanks one by one. -/
def blankCodes : List Nat :=
  [9, 10, 11, 12, 13, 0x20, 0x85, 0xA0, 0x1680, 0x2000, 0x2001, 0x2002, 0x2003, 0x2004, 0x2005,
    0x2006, 0x2007, 0x2008, 0x2009, 0x200A, 0x2028, 0x2029, 0x202F, 0x205F, 0x3000]

theorem toNat_mem_blankCodes {c : Char} (h : Text.isBlank c = true) : c.toNat ∈ blankCodes := by
  simp only [Text.isBlank, Bool.or_eq_true, Bool.and_eq_true, decide_eq_true_eq, beq_iff_eq] at h
  simp only [blankCodes, List.mem_cons, List.not_mem_nil, or_false]
  omega

theorem Lexer.isSeparator_of_isBlank {c : Char} (h : Text.isBlank c = true) :
    isSeparator c = true := by
  have hall : ∀ n ∈ blankCodes, isSeparator (Char.ofNat n) = true := by decide +kernel
  have hc := hall _ (toNat_mem_blankCodes h)
  rwa [Char.ofNat_toNat] at hc

theorem Lexer.step_idle_blank {c : Char} (h : Text.isBlank c = true) :
    step .idle c = (.idle, []) := by
  simp [step, extends?, start, finish, h]

/-- A blank outside quotes completes the token before it. -/
theorem Lexer.step_blank {l : Lexer} (hl : ∀ quote ∈ l.quote?, Placeholder.isQuote quote = true)
    {c : Char} (hc : Text.isBlank c = true) (h : (l.step c).1.isClosed = true) :
    l.isClosed = true ∧ (l.step c).2 ++ (l.step c).1.finish = l.finish := by
  have hseparator := isSeparator_of_isBlank hc
  have hclosed : l.isClosed = true := by
    cases l with
    | quoted quote text =>
      have hne : c ≠ quote := by
        rintro rfl
        simp [isSeparator, hl c rfl] at hseparator
      simp [step, extends?, hne, isClosed] at h
    | idle | word | operator | closing => rfl
  refine ⟨hclosed, ?_⟩
  rw [step_separator hl hclosed hseparator, step_idle_blank hc]
  simp [finish]

theorem Lexer.dropWhile_isBlank (cs : List Char) :
    after .idle (cs.dropWhile Text.isBlank) = after .idle cs ∧
      completed .idle (cs.dropWhile Text.isBlank) = completed .idle cs := by
  induction cs with
  | nil => exact ⟨rfl, rfl⟩
  | cons c cs ih =>
    rw [List.dropWhile_cons]
    split
    · rename_i hc
      simp only [after, completed, step_idle_blank hc, List.nil_append]
      exact ih
    · exact ⟨rfl, rfl⟩

theorem Lexer.trimRight {l : Lexer} (hl : ∀ quote ∈ l.quote?, Placeholder.isQuote quote = true)
    {cs : List Char} (h : (l.after cs).isClosed = true) :
    (l.after (Text.trimRight cs)).isClosed = true ∧
      l.completed (Text.trimRight cs) ++ (l.after (Text.trimRight cs)).finish =
        l.completed cs ++ (l.after cs).finish := by
  induction cs using List.reverseRecOn with
  | nil => exact ⟨h, rfl⟩
  | append_singleton cs c ih =>
    cases hc : Text.isBlank c with
    | false =>
      rw [Text.trimRight_concat_of_not_blank hc]
      exact ⟨h, rfl⟩
    | true =>
      rw [after_append] at h
      obtain ⟨hclosed, hfinish⟩ := step_blank (isQuote_after hl cs) hc h
      obtain ⟨hclosed', heq⟩ := ih hclosed
      rw [Text.trimRight_concat_blank hc]
      refine ⟨hclosed', ?_⟩
      rw [heq, completed_append, after_append, List.append_assoc]
      simp only [completed, after, List.append_nil, hfinish]

/-- Blanks at the ends of a text are no part of its tokens. -/
theorem Spells.trim {text : String} {ts : List Token} (h : Spells text ts) :
    Spells (Text.trim text) ts := by
  have hdrop := Lexer.dropWhile_isBlank text.toList
  have hclosed := h.closed
  rw [← hdrop.1] at hclosed
  have htrim := Lexer.trimRight (l := .idle) (fun _ hquote => by cases hquote) hclosed
  constructor
  · rw [← h.tokens_eq, tokens, tokens, Text.trim, String.toList_ofList, Text.trimChars, htrim.2,
      hdrop.1, hdrop.2]
  · rw [Text.trim, String.toList_ofList]
    exact htrim.1

theorem Spells.empty : Spells "" [] := by
  decide

theorem Spells.eq_nil {ts : List Token} (h : Spells "" ts) : ts = [] :=
  h.tokens_eq.symm

/-- Texts with blanks between them. -/
theorem spells_intercalate {texts : List String} {tss : List (List Token)}
    (h : List.Forall₂ Spells texts tss) : Spells (String.intercalate " " texts) tss.flatten := by
  induction h with
  | nil => exact Spells.empty
  | @cons text ts texts tss htext htexts ih =>
    cases htexts with
    | nil => simpa using htext
    | cons _ _ =>
      have hblank : Ends " " [] := by decide
      rw [String.intercalate_cons_of_ne_nil (List.cons_ne_nil _ _), List.flatten_cons]
      have hfirst := htext.append_ends hblank (by decide)
      rw [List.append_nil] at hfirst
      exact hfirst.append_spells ih

end SqlSelect.Sql
