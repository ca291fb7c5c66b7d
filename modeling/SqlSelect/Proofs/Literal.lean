import SqlSelect.Text.Blank
import SqlSelect.Value.Literal

/-!
# The shape of literals

The literal of a value is never empty, and neither of its ends is blank: numbers and keywords are
made of letters, digits, points and signs, and texts and blobs end in quotes. This holds of every
double, so nothing about the way doubles are written has to be assumed.
-/

namespace SqlSelect

/-- The characters of keywords and numbers. -/
def isWordChar (c : Char) : Bool :=
  c.isAlphanum || c == '.' || c == '-'

theorem isWordChar_of_isDigit {c : Char} (h : c.isDigit = true) : isWordChar c = true := by
  simp [isWordChar, Char.isAlphanum, h]

theorem isBlank_of_isWordChar {c : Char} (h : isWordChar c = true) : Text.isBlank c = false := by
  have hclass : ((((decide (65 ≤ c.val ∧ c.val ≤ 90)) ||
      (decide (97 ≤ c.val) && decide (c.val ≤ 122))) ||
      (decide (48 ≤ c.val) && decide (c.val ≤ 57))) || c == '.' || c == '-') = true := h
  simp only [Bool.or_eq_true, Bool.and_eq_true, decide_eq_true_eq, beq_iff_eq,
    UInt32.le_iff_toNat_le] at hclass
  have hcode : c.toNat = c.val.toNat := rfl
  rcases hclass with (((h | h) | h) | rfl) | rfl
  · simp only [Text.isBlank, hcode]
    grind
  · simp only [Text.isBlank, hcode]
    grind
  · simp only [Text.isBlank, hcode]
    grind
  · decide
  · decide

/-- A text of word characters, at least one. -/
structure IsWord (cs : List Char) : Prop where
  ne_nil : cs ≠ []
  chars : ∀ c ∈ cs, isWordChar c = true

instance (cs : List Char) : Decidable (IsWord cs) :=
  decidable_of_iff (cs ≠ [] ∧ cs.all isWordChar = true)
    ⟨fun h => ⟨h.1, List.all_eq_true.mp h.2⟩, fun h => ⟨h.1, List.all_eq_true.mpr h.2⟩⟩

theorem IsWord.append {a b : List Char} (ha : IsWord a) (hb : ∀ c ∈ b, isWordChar c = true) :
    IsWord (a ++ b) := by
  refine ⟨fun h => ha.ne_nil (List.append_eq_nil_iff.mp h).1, ?_⟩
  intro c hc
  rcases List.mem_append.mp hc with hc | hc
  · exact ha.chars c hc
  · exact hb c hc

theorem isWord_repr (n : Nat) : IsWord (Nat.repr n).toList := by
  rw [Nat.toList_repr]
  refine ⟨Nat.toDigits_ne_nil, fun c hc => isWordChar_of_isDigit ?_⟩
  exact Nat.isDigit_of_mem_toDigits (by decide) (by decide) hc

theorem isWord_signed {cs : List Char} (negative : Bool) (h : IsWord cs) :
    IsWord ((if negative then "-" else "").toList ++ cs) := by
  cases negative
  · exact h
  · exact IsWord.append (by decide) h.chars

theorem isWord_intRepr (n : Int) : IsWord (Int.repr n).toList := by
  cases n with
  | ofNat n => exact isWord_repr n
  | negSucc n =>
    have h := isWord_signed true (isWord_repr (n + 1))
    rwa [← String.toList_append] at h

namespace Decimal

theorem Digits.isWord_positional {d : Digits} (h : ∀ c ∈ d.digits, isWordChar c = true) :
    IsWord (d.positional "").toList := by
  have hzero : ∀ n : Nat, ∀ c ∈ List.replicate n '0', isWordChar c = true := by
    intro n c hc
    rw [List.eq_of_mem_replicate hc]
    decide
  unfold Digits.positional
  split
  · simp only [String.toList_append, String.toList_ofList]
    refine IsWord.append (by decide) ?_
    intro c hc
    rcases List.mem_append.mp hc with hc | hc
    · exact hzero _ c hc
    · exact h c hc
  · rename_i hpoint
    dsimp only
    split
    · simp only [String.toList_append, String.toList_ofList, String.toList_empty, List.append_nil]
      refine ⟨?_, ?_⟩
      · intro hnil
        have hlen := congrArg List.length hnil
        rw [List.length_append, List.length_replicate, List.length_nil] at hlen
        omega
      · intro c hc
        rcases List.mem_append.mp hc with hc | hc
        · exact h c hc
        · exact hzero _ c hc
    · simp only [String.toList_append, String.toList_ofList]
      refine ⟨by simp, ?_⟩
      intro c hc
      simp only [List.append_assoc, List.mem_append] at hc
      rcases hc with hc | hc | hc
      · exact h c (List.mem_of_mem_take hc)
      · rw [List.mem_singleton.mp hc]
        decide
      · exact h c (List.mem_of_mem_drop hc)

theorem Binary.isWordChar_of_mem_shortest {b : Binary} {tie : Tie} {c : Char}
    (h : c ∈ (b.shortest tie).digits) : isWordChar c = true := by
  simp only [Binary.shortest, List.mem_reverse] at h
  have hmem := List.mem_reverse.mp ((List.dropWhile_sublist _).subset h)
  exact isWordChar_of_isDigit (Nat.isDigit_of_mem_toDigits (by decide) (by decide) hmem)

end Decimal

theorem isWord_floatLiteral (x : Float) : IsWord (Value.floatLiteral x).toList := by
  unfold Value.floatLiteral
  split
  · decide
  · split <;> decide
  · split <;> decide
  · rename_i negative b _
    have hb : IsWord (Value.literalLayout.write b).toList :=
      Decimal.Digits.isWord_positional fun c hc => Decimal.Binary.isWordChar_of_mem_shortest hc
    rw [String.toList_append]
    exact isWord_signed negative hb

/-- A text with something at both ends. -/
structure Solid (cs : List Char) : Prop where
  head : ∃ c rest, cs = c :: rest ∧ Text.isBlank c = false
  last : ∃ rest c, cs = rest ++ [c] ∧ Text.isBlank c = false

theorem IsWord.solid {cs : List Char} (h : IsWord cs) : Solid cs := by
  constructor
  · obtain ⟨c, rest, rfl⟩ := List.exists_cons_of_ne_nil h.ne_nil
    exact ⟨c, rest, rfl, isBlank_of_isWordChar (h.chars c List.mem_cons_self)⟩
  · refine ⟨cs.dropLast, cs.getLast h.ne_nil, (List.dropLast_concat_getLast h.ne_nil).symm, ?_⟩
    exact isBlank_of_isWordChar (h.chars _ (List.getLast_mem h.ne_nil))

theorem solid_enclose {quote : Char} (hq : Text.isBlank quote = false) (cs : List Char) :
    Solid (enclose quote cs) :=
  ⟨⟨quote, _, rfl, hq⟩, ⟨_, quote, rfl, hq⟩⟩

/-- Every literal is solid. -/
theorem Value.solid_literal (v : Value) : Solid v.literal.toList := by
  cases v with
  | null => exact IsWord.solid (by decide)
  | bool b => cases b <;> exact IsWord.solid (by decide)
  | int n => exact (isWord_intRepr n.toInt).solid
  | float x => exact (isWord_floatLiteral x).solid
  | text s =>
    rw [Value.literal, String.toList_ofList]
    exact solid_enclose (by decide) s.toList
  | blob bytes =>
    simp only [Value.literal, String.toList_append, String.toList_ofList]
    exact ⟨⟨'X', _, rfl, by decide⟩,
      ⟨'X' :: '\x27' :: bytes.flatMap hexByte, '\x27', rfl, by decide⟩⟩

end SqlSelect
