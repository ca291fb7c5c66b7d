import SqlSelect.Proofs.Assembly
import SqlSelect.Proofs.Literal
import SqlSelect.Proofs.Scanning

/-!
# Drafts

A draft is the text of a statement with its values still in place. It has two readings: the
statement, where every value is a `?` and the values stand beside the text in order, and the text
that shows each value by its literal. Both readings take a draft apart in the same way, also when it
is trimmed, because neither a `?` nor a literal begins or ends with a blank.

A draft is legible when the scanner finds exactly its values in the statement: no `?` that stands
for no value, no value inside quotes, no number.
-/

namespace SqlSelect

open Placeholder

/-- A character of the text or a value in its place. -/
inductive Piece where
  | char (c : Char)
  | value (v : Value)

/-- The text of a statement with its values in place. -/
abbrev Draft := List Piece

namespace Piece

/-- The character that stands for a piece in the statement. -/
def mark : Piece → Char
  | .char c => c
  | .value _ => '?'

/-- The token that the scanner should find. -/
def token : Piece → Token
  | .char c => .char c
  | .value _ => .mark

def value? : Piece → Option Value
  | .char _ => none
  | .value v => some v

def literal : Piece → List Char
  | .char c => [c]
  | .value v => v.literal.toList

def isBlank (p : Piece) : Bool :=
  Text.isBlank p.mark

end Piece

namespace Draft

/-- Text without values. -/
def ofText (text : String) : Draft :=
  text.toList.map .char

def sql (d : Draft) : List Char :=
  d.map Piece.mark

def values (d : Draft) : List Value :=
  d.filterMap Piece.value?

def literal (d : Draft) : List Char :=
  d.flatMap Piece.literal

/-- The draft without the blanks at either end. -/
def trim (d : Draft) : Draft :=
  (d.dropWhile Piece.isBlank).rdropWhile Piece.isBlank

@[simp] theorem sql_append (a b : Draft) : sql (a ++ b) = sql a ++ sql b :=
  List.map_append

@[simp] theorem values_append (a b : Draft) : values (a ++ b) = values a ++ values b :=
  List.filterMap_append

@[simp] theorem literal_append (a b : Draft) : literal (a ++ b) = literal a ++ literal b :=
  List.flatMap_append

theorem ofText_append (a b : String) : ofText (a ++ b) = ofText a ++ ofText b := by
  rw [ofText, String.toList_append, List.map_append]
  rfl

@[simp] theorem sql_ofText (text : String) : sql (ofText text) = text.toList := by
  simp [sql, ofText, Piece.mark, Function.comp_def]

@[simp] theorem values_ofText (text : String) : values (ofText text) = [] := by
  simp [values, ofText, Piece.value?, Function.comp_def]

@[simp] theorem literal_ofText (text : String) : literal (ofText text) = text.toList := by
  simp [literal, ofText, Piece.literal, List.flatMap_map]

theorem sql_eq_nil {d : Draft} : sql d = [] ↔ d = [] :=
  List.map_eq_nil_iff

theorem literal_eq_nil {d : Draft} : literal d = [] ↔ d = [] := by
  constructor
  · intro h
    rw [literal, List.flatMap_eq_nil_iff] at h
    cases d with
    | nil => rfl
    | cons p d =>
      have hp := h p List.mem_cons_self
      cases p with
      | char c => simp [Piece.literal] at hp
      | value v =>
        obtain ⟨c, rest, hc, _⟩ := v.solid_literal.head
        simp [Piece.literal, hc] at hp
  · intro h
    rw [h]
    rfl

/-! ## Trimming -/

end Draft

namespace Text

theorem trimRight_concat_blank {c : Char} (h : isBlank c = true) (cs : List Char) :
    trimRight (cs ++ [c]) = trimRight cs := by
  induction cs with
  | nil => simp [trimRight, h]
  | cons x cs ih => rw [List.cons_append, trimRight, trimRight, ih]

theorem trimRight_concat_of_not_blank {c : Char} (h : isBlank c = false) (cs : List Char) :
    trimRight (cs ++ [c]) = cs ++ [c] := by
  induction cs with
  | nil => simp [trimRight, h]
  | cons x cs ih =>
    rw [List.cons_append, trimRight, ih]
    cases cs <;> rfl

end Text

namespace Draft

theorem isBlank_value (v : Value) : Piece.isBlank (.value v) = false :=
  (by decide : Text.isBlank '?' = false)

theorem sql_dropWhile (d : Draft) :
    sql (d.dropWhile Piece.isBlank) = (sql d).dropWhile Text.isBlank := by
  rw [sql, sql, List.dropWhile_map]
  rfl

theorem sql_rdropWhile (d : Draft) :
    sql (d.rdropWhile Piece.isBlank) = Text.trimRight (sql d) := by
  induction d using List.reverseRecOn with
  | nil => rfl
  | append_singleton d p ih =>
    rw [sql_append]
    by_cases hp : Piece.isBlank p = true
    · rw [List.rdropWhile_concat_pos _ _ _ hp, ih]
      exact (Text.trimRight_concat_blank hp _).symm
    · rw [List.rdropWhile_concat_neg _ _ _ hp, sql_append]
      exact (Text.trimRight_concat_of_not_blank (Bool.eq_false_iff.mpr hp) _).symm

/-- Trimming a draft trims its statement. -/
theorem sql_trim (d : Draft) : sql d.trim = Text.trimChars (sql d) := by
  rw [trim, sql_rdropWhile, sql_dropWhile, Text.trimChars]

theorem literal_dropWhile (d : Draft) :
    literal (d.dropWhile Piece.isBlank) = (literal d).dropWhile Text.isBlank := by
  induction d with
  | nil => rfl
  | cons p d ih =>
    cases p with
    | char c =>
      have hl : literal (.char c :: d) = c :: literal d := rfl
      by_cases hc : Text.isBlank c = true
      · rw [List.dropWhile_cons_of_pos (show Piece.isBlank (.char c) = true from hc), hl,
          List.dropWhile_cons_of_pos hc, ih]
      · rw [List.dropWhile_cons_of_neg (show ¬ Piece.isBlank (.char c) = true from hc), hl,
          List.dropWhile_cons_of_neg hc]
    | value v =>
      obtain ⟨x, rest, hx, hb⟩ := v.solid_literal.head
      have hl : literal (.value v :: d) = x :: (rest ++ literal d) := by
        rw [literal, List.flatMap_cons, Piece.literal, hx]
        rfl
      rw [List.dropWhile_cons_of_neg (by rw [isBlank_value]; decide), hl,
        List.dropWhile_cons_of_neg (by rw [hb]; decide)]

theorem literal_rdropWhile (d : Draft) :
    literal (d.rdropWhile Piece.isBlank) = Text.trimRight (literal d) := by
  induction d using List.reverseRecOn with
  | nil => rfl
  | append_singleton d p ih =>
    rw [literal_append]
    cases p with
    | char c =>
      have hl : literal [.char c] = [c] := rfl
      by_cases hc : Text.isBlank c = true
      · rw [List.rdropWhile_concat_pos _ _ _ (show Piece.isBlank (.char c) = true from hc), hl,
          Text.trimRight_concat_blank hc, ih]
      · rw [List.rdropWhile_concat_neg _ _ _ (show ¬ Piece.isBlank (.char c) = true from hc), hl,
          Text.trimRight_concat_of_not_blank (Bool.eq_false_iff.mpr hc), literal_append, hl]
    | value v =>
      obtain ⟨rest, x, hx, hb⟩ := v.solid_literal.last
      have hl : literal [.value v] = rest ++ [x] := by
        rw [literal, List.flatMap_singleton, Piece.literal, hx]
      rw [List.rdropWhile_concat_neg _ _ _ (by rw [isBlank_value]; decide), literal_append, hl,
        ← List.append_assoc, Text.trimRight_concat_of_not_blank hb]

/-- Trimming a draft trims the text with its literals. -/
theorem literal_trim (d : Draft) : literal d.trim = Text.trimChars (literal d) := by
  rw [trim, literal_rdropWhile, literal_dropWhile, Text.trimChars]

/-- What trimming takes away has no values and no quotes. -/
theorem exists_trim (d : Draft) :
    ∃ a b : Draft, d = a ++ d.trim ++ b ∧ (∀ p ∈ a, p.isBlank = true) ∧
      ∀ p ∈ b, p.isBlank = true := by
  refine ⟨d.takeWhile Piece.isBlank, (d.dropWhile Piece.isBlank).rtakeWhile Piece.isBlank, ?_, ?_,
    ?_⟩
  · rw [trim, List.append_assoc, List.rdropWhile_append_rtakeWhile, List.takeWhile_append_dropWhile]
  · exact fun p hp => List.mem_takeWhile_imp hp
  · exact fun p hp => List.mem_rtakeWhile_imp hp

theorem values_of_isBlank {d : Draft} (h : ∀ p ∈ d, p.isBlank = true) : values d = [] := by
  rw [values, List.filterMap_eq_nil_iff]
  intro p hp
  cases p with
  | char c => rfl
  | value v => exact absurd (h _ hp) (by rw [isBlank_value]; decide)

theorem values_trim (d : Draft) : values d.trim = values d := by
  obtain ⟨a, b, hd, ha, hb⟩ := exists_trim d
  conv_rhs => rw [hd]
  rw [values_append, values_append, values_of_isBlank ha, values_of_isBlank hb, List.nil_append,
    List.append_nil]

/-! ## Legible drafts -/

/-- The scanner finds the values of the draft and nothing else, and ends outside quotes. -/
structure Legible (d : Draft) : Prop where
  completed_eq : Mode.completed .outside (sql d) = d.map Piece.token
  after_eq : Mode.after .outside (sql d) = .outside

theorem Legible.append {a b : Draft} (ha : Legible a) (hb : Legible b) : Legible (a ++ b) := by
  constructor
  · rw [sql_append, Mode.completed_append, ha.completed_eq, ha.after_eq, hb.completed_eq,
      List.map_append]
  · rw [sql_append, Mode.after_append, ha.after_eq, hb.after_eq]

theorem legible_ofText {text : String} (h : Inert text) : Legible (ofText text) := by
  constructor
  · rw [sql_ofText, h.completed_eq, ofText, List.map_map]
    rfl
  · rw [sql_ofText, h.after_eq]

theorem legible_value (v : Value) : Legible [.value v] :=
  ⟨rfl, rfl⟩

theorem Legible.scan_eq {d : Draft} (h : Legible d) {text : String} (ht : text.toList = sql d) :
    scan text = d.map Piece.token := by
  rw [scan, ht, scanFrom_eq, h.completed_eq, h.after_eq]
  exact List.append_nil _

theorem dollar_notMem_tokens (digits : List Char) (d : Draft) :
    Token.dollar digits ∉ d.map Piece.token := by
  intro h
  obtain ⟨p, _, hp⟩ := List.mem_map.mp h
  cases p <;> cases hp

theorem legible_of_isBlank {d : Draft} (h : ∀ p ∈ d, p.isBlank = true) : Legible d := by
  induction d with
  | nil => exact ⟨rfl, rfl⟩
  | cons p d ih =>
    have hd := ih fun p hp => h p (List.mem_cons_of_mem _ hp)
    have happend : p :: d = [p] ++ d := rfl
    rw [happend]
    refine Legible.append ?_ hd
    have hp := h p List.mem_cons_self
    cases p with
    | value v => exact legible_value v
    | char c =>
      have hc := Passes.singleton (step_ordinary (isOrdinary_of_isBlank hp))
      exact ⟨hc.completed_eq, hc.after_eq⟩

theorem Legible.of_append_left {a d : Draft} (ha : Legible a) (h : Legible (a ++ d)) :
    Legible d := by
  obtain ⟨hc, hm⟩ := h
  rw [sql_append, Mode.completed_append, ha.completed_eq, ha.after_eq, List.map_append] at hc
  rw [sql_append, Mode.after_append, ha.after_eq] at hm
  exact ⟨List.append_cancel_left hc, hm⟩

/-- Blanks at the end of a legible draft are outside quotes, so they can be dropped. -/
theorem Legible.of_append_isBlank {d b : Draft} (hb : ∀ p ∈ b, p.isBlank = true)
    (h : Legible (d ++ b)) : Legible d := by
  have hlb := legible_of_isBlank hb
  obtain ⟨hc, hm⟩ := h
  rw [sql_append, Mode.completed_append, List.map_append] at hc
  rw [sql_append, Mode.after_append] at hm
  cases hd : Mode.after .outside (sql d) with
  | outside =>
    rw [hd, hlb.completed_eq] at hc
    exact ⟨List.append_cancel_right hc, hd⟩
  | quoted q =>
    have hq : isQuote q = true := isQuote_of_after (by rintro q ⟨⟩) hd
    have hn : q ∉ sql b := by
      intro hmem
      obtain ⟨p, hp, rfl⟩ := List.mem_map.mp hmem
      have := isOrdinary_of_isBlank (hb p hp)
      simp [isOrdinary, hq] at this
    rw [hd, after_quoted_of_notMem hn] at hm
    cases hm
  | dollar digits =>
    cases b with
    | nil =>
      rw [hd] at hm
      cases hm
    | cons p b =>
      -- the blank after the number would complete a token that no piece has
      have hp : Text.isBlank p.mark = true := hb p List.mem_cons_self
      have hdigit : p.mark.isDigit = false := by
        by_contra hdigit
        have := isBlank_of_isWordChar (isWordChar_of_isDigit (Bool.not_eq_false _ ▸ hdigit))
        simp [hp] at this
      have hmem : Token.dollar digits ∈ (d ++ p :: b).map Piece.token := by
        rw [List.map_append, ← hc, hd]
        simp [sql, Mode.completed, Mode.step, hdigit]
      exact absurd hmem (dollar_notMem_tokens digits _)

theorem Legible.trim {d : Draft} (h : Legible d) : Legible d.trim := by
  obtain ⟨a, b, hd, ha, hb⟩ := exists_trim d
  rw [hd] at h
  exact (legible_of_isBlank ha).of_append_left (h.of_append_isBlank hb)

/-! ## Fragments -/

/-- Tokens with values in place of their marks, as long as there are values. -/
def fill : List Token → List Value → Draft
  | [], _ => []
  | .char c :: ts, vs => .char c :: fill ts vs
  | .mark :: ts, v :: vs => .value v :: fill ts vs
  | .mark :: ts, [] => .char '?' :: fill ts []
  | .dollar digits :: ts, vs => ofText (String.ofList ('$' :: digits)) ++ fill ts vs

theorem sql_fill (ts : List Token) (vs : List Value) :
    sql (fill ts vs) = ts.flatMap Token.spelling := by
  fun_induction fill ts vs with
  | case1 => rfl
  | case2 c ts vs ih => exact congrArg (c :: ·) ih
  | case3 ts v vs ih => exact congrArg ('?' :: ·) ih
  | case4 ts ih => exact congrArg ('?' :: ·) ih
  | case5 digits ts vs ih =>
    rw [sql_append, sql_ofText, String.toList_ofList, ih]
    rfl

theorem values_fill {ts : List Token} {vs : List Value}
    (h : ts.countP (· == .mark) = vs.length) : values (fill ts vs) = vs := by
  fun_induction fill ts vs with
  | case1 vs =>
    rw [List.countP_nil] at h
    exact (List.eq_nil_of_length_eq_zero h.symm).symm
  | case2 c ts vs ih => exact ih (by simpa using h)
  | case3 ts v vs ih => exact congrArg (v :: ·) (ih (by simpa using h))
  | case4 ts ih => simp at h
  | case5 digits ts vs ih =>
    rw [values_append, values_ofText]
    exact ih (by simpa using h)

theorem map_token_fill {ts : List Token} {vs : List Value} (hd : ∀ t ∈ ts, t.isDollar = false)
    (h : ts.countP (· == .mark) = vs.length) : (fill ts vs).map Piece.token = ts := by
  fun_induction fill ts vs with
  | case1 => rfl
  | case2 c ts vs ih =>
    exact congrArg (Token.char c :: ·)
      (ih (fun t ht => hd t (List.mem_cons_of_mem _ ht)) (by simpa using h))
  | case3 ts v vs ih =>
    exact congrArg (Token.mark :: ·)
      (ih (fun t ht => hd t (List.mem_cons_of_mem _ ht)) (by simpa using h))
  | case4 ts ih => simp at h
  | case5 digits ts vs ih => simpa [Token.isDollar] using hd _ List.mem_cons_self

/-- A fragment with its own values in place of its own marks. -/
def ofFragment (f : Fragment) : Draft :=
  fill (scan f.sql) f.bindings

theorem sql_ofFragment (f : Fragment) : sql (ofFragment f) = f.sql.toList := by
  rw [ofFragment, sql_fill, spelling_scan]

theorem values_ofFragment {f : Fragment} (h : count f.sql = f.bindings.length) :
    values (ofFragment f) = f.bindings :=
  values_fill h

theorem map_token_ofFragment {f : Fragment} (hd : DollarFree f.sql)
    (h : count f.sql = f.bindings.length) : (ofFragment f).map Piece.token = scan f.sql :=
  map_token_fill hd h

theorem legible_ofFragment {f : Fragment} (hq : QuoteClosed f.sql) (hd : DollarFree f.sql)
    (h : count f.sql = f.bindings.length) : Legible (ofFragment f) := by
  have ha := after_eq_outside hq hd
  constructor
  · rw [sql_ofFragment, map_token_ofFragment hd h, scan, scanFrom_eq, ha]
    exact (List.append_nil _).symm
  · rw [sql_ofFragment, ha]

/-! ## The statement of a draft -/

/-- The text and the values that a draft has as a statement. -/
structure Reads (d : Draft) (s : String) (vs : List Value) : Prop where
  sql_eq : s.toList = sql d
  values_eq : vs = values d

theorem reads_ofText (s : String) : Reads (ofText s) s [] :=
  ⟨(sql_ofText s).symm, (values_ofText s).symm⟩

theorem reads_value (v : Value) : Reads [.value v] "?" [v] :=
  ⟨rfl, rfl⟩

theorem reads_ofFragment {f : Fragment} (h : count f.sql = f.bindings.length) :
    Reads (ofFragment f) f.sql f.bindings :=
  ⟨(sql_ofFragment f).symm, (values_ofFragment h).symm⟩

namespace Reads

variable {d e : Draft} {s t : String} {vs ws : List Value}

theorem append (hd : Reads d s vs) (he : Reads e t ws) : Reads (d ++ e) (s ++ t) (vs ++ ws) := by
  constructor
  · rw [String.toList_append, sql_append, hd.sql_eq, he.sql_eq]
  · rw [values_append, hd.values_eq, he.values_eq]

theorem trim (h : Reads d s vs) : Reads d.trim (Text.trim s) vs := by
  constructor
  · rw [Text.trim, String.toList_ofList, sql_trim, h.sql_eq]
  · rw [values_trim, h.values_eq]

theorem eq_empty_iff (h : Reads d s vs) : s = "" ↔ d = [] := by
  rw [← String.toList_eq_nil_iff, h.sql_eq, sql_eq_nil]

theorem isEmpty_eq (h : Reads d s vs) : d.isEmpty = s.isEmpty := by
  rw [Bool.eq_iff_iff, String.isEmpty_iff, h.eq_empty_iff]
  exact List.isEmpty_iff

theorem values_eq_nil (h : Reads d "" vs) : vs = [] := by
  rw [h.values_eq, h.eq_empty_iff.mp rfl]
  rfl

end Reads

end Draft

/-- Statements as drafts. -/
def Assembly.draft : Assembly Draft where
  text := .ofText
  value v := [.value v]
  fragment := .ofFragment
  trim := Draft.trim
  isEmpty := List.isEmpty

end SqlSelect
