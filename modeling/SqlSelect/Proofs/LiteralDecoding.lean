import SqlSelect.Proofs.NameDecoding
import SqlSelect.Proofs.Replacement

/-!
# Literals decoded

A decoder for the literals of all values but doubles: keywords, whole numbers, texts in quotes with
their doubled quotes undone, and blobs. It takes a literal from the front of a text and returns what
follows. A text in quotes is told from its continuation by the next character being no quote, and a
number by the next one being no digit; the other literals end where they end, whatever follows. So
values that are written alike are equal.

Doubles are left out: a whole double is written like the number of the same value.
-/

namespace SqlSelect

open Identifier (takeQuoted takeQuoted_doubled)

/-! ## The decoder -/

/-- Reads the digits at the front of a text. -/
def takeNat (cs : List Char) : Option (Nat × List Char) :=
  let digits := cs.takeWhile Char.isDigit
  if digits.isEmpty then none
  else some (Nat.ofDigitChars 10 digits 0, cs.dropWhile Char.isDigit)

/-- Reads a number with or without a sign. -/
def takeInt : List Char → Option (Int × List Char)
  | '-' :: cs => (takeNat cs).map fun (n, rest) => (-(n : Int), rest)
  | cs => (takeNat cs).map fun (n, rest) => ((n : Int), rest)

/-- The integer of 64 bits with this value, if there is one. -/
def int64? (n : Int) : Option Int64 :=
  if (Int64.ofInt n).toInt = n then some (Int64.ofInt n) else none

/-- The value of a hexadecimal digit, capital letters. -/
def hexValue? (c : Char) : Option Nat :=
  if c.isDigit then some (c.toNat - 48)
  else if 65 ≤ c.toNat ∧ c.toNat ≤ 70 then some (c.toNat - 55)
  else none

/-- Reads bytes of two hexadecimal digits each up to the closing quote. -/
def takeBytes : List Char → Option (List UInt8 × List Char)
  | '\x27' :: rest => some ([], rest)
  | a :: b :: cs => do
    let high ← hexValue? a
    let low ← hexValue? b
    let (bytes, rest) ← takeBytes cs
    return (UInt8.ofNat (16 * high + low) :: bytes, rest)
  | _ => none

/-- Reads a literal from the front of a text. -/
def takeLiteral : List Char → Option (Value × List Char)
  | '\x27' :: cs => (takeQuoted '\x27' cs).map fun (s, rest) => (.text (String.ofList s), rest)
  | 'X' :: '\x27' :: cs => (takeBytes cs).map fun (bytes, rest) => (.blob bytes, rest)
  | 'N' :: 'U' :: 'L' :: 'L' :: rest => some (.null, rest)
  | 'T' :: 'R' :: 'U' :: 'E' :: rest => some (.bool true, rest)
  | 'F' :: 'A' :: 'L' :: 'S' :: 'E' :: rest => some (.bool false, rest)
  | cs => do
    let (n, rest) ← takeInt cs
    return (.int (← int64? n), rest)

/-- The value of the literal at the front of a text, and what follows the literal. -/
def Value.decode (text : String) : Option (Value × String) :=
  (takeLiteral text.toList).map fun (v, rest) => (v, String.ofList rest)

/-! ## Numbers -/

theorem takeNat_toDigits (n : Nat) {rest : List Char}
    (hrest : ∀ c ∈ rest.head?, c.isDigit = false) :
    takeNat (Nat.toDigits 10 n ++ rest) = some (n, rest) := by
  have hdigits : ∀ c ∈ Nat.toDigits 10 n, c.isDigit = true := fun c hc =>
    Nat.isDigit_of_mem_toDigits (by decide) (by decide) hc
  have hstop : rest.takeWhile Char.isDigit = [] ∧ rest.dropWhile Char.isDigit = rest := by
    cases rest with
    | nil => exact ⟨rfl, rfl⟩
    | cons c rest =>
      have hc : c.isDigit = false := hrest c rfl
      simp [hc]
  have htake : (Nat.toDigits 10 n ++ rest).takeWhile Char.isDigit = Nat.toDigits 10 n := by
    rw [List.takeWhile_append_of_pos hdigits, hstop.1, List.append_nil]
  have hdrop : (Nat.toDigits 10 n ++ rest).dropWhile Char.isDigit = rest := by
    rw [List.dropWhile_append_of_pos hdigits, hstop.2]
  have hne : (Nat.toDigits 10 n).isEmpty = false :=
    List.isEmpty_eq_false_iff.mpr Nat.toDigits_ne_nil
  simp only [takeNat, htake, hdrop, hne]
  simp

theorem exists_toDigits_eq_cons (n : Nat) :
    ∃ d ds, Nat.toDigits 10 n = d :: ds ∧ d.isDigit = true := by
  obtain ⟨d, ds, hdigits⟩ := List.exists_cons_of_ne_nil (Nat.toDigits_ne_nil (n := n) (b := 10))
  have hd : d ∈ Nat.toDigits 10 n := hdigits ▸ List.mem_cons_self
  exact ⟨d, ds, hdigits, Nat.isDigit_of_mem_toDigits (by decide) (by decide) hd⟩

theorem takeInt_of_ne {cs : List Char} (h : cs.head? ≠ some '-') :
    takeInt cs = (takeNat cs).map fun (n, rest) => ((n : Int), rest) := by
  unfold takeInt
  split
  · exact absurd rfl h
  · rfl

theorem takeInt_repr (n : Int) {rest : List Char} (hrest : ∀ c ∈ rest.head?, c.isDigit = false) :
    takeInt ((Int.repr n).toList ++ rest) = some (n, rest) := by
  cases n with
  | ofNat n =>
    have hrepr : (Int.repr (Int.ofNat n)).toList = Nat.toDigits 10 n := Nat.toList_repr
    obtain ⟨d, ds, hdigits, hd⟩ := exists_toDigits_eq_cons n
    have hsign : (Nat.toDigits 10 n ++ rest).head? ≠ some '-' := by
      rw [hdigits]
      rintro ⟨⟩
      cases hd
    rw [hrepr, takeInt_of_ne hsign, takeNat_toDigits n hrest]
    rfl
  | negSucc n =>
    have hrepr : (Int.repr (Int.negSucc n)).toList = '-' :: Nat.toDigits 10 (n + 1) := by
      change ("-" ++ Nat.repr (n + 1)).toList = _
      rw [String.toList_append, Nat.toList_repr]
      rfl
    rw [hrepr, List.cons_append, takeInt, takeNat_toDigits (n + 1) hrest]
    rfl

theorem exists_repr_eq_cons (n : Int) :
    ∃ c cs, (Int.repr n).toList = c :: cs ∧ (c.isDigit = true ∨ c = '-') := by
  cases n with
  | ofNat n =>
    obtain ⟨d, ds, hdigits, hd⟩ := exists_toDigits_eq_cons n
    exact ⟨d, ds, Nat.toList_repr.trans hdigits, Or.inl hd⟩
  | negSucc n => exact ⟨'-', (Nat.repr (n + 1)).toList, String.toList_append, Or.inr rfl⟩

theorem int64_toInt (n : Int64) : int64? n.toInt = some n := by
  rw [int64?, Int64.ofInt_toInt, if_pos rfl]

/-! ## Blobs -/

theorem hexValue_digit : ∀ n : Fin 16, hexValue? (Nat.digitChar n).toUpper = some n.val := by
  decide

theorem takeBytes_hexByte (byte : UInt8) (cs : List Char) :
    takeBytes (hexByte byte ++ cs) =
      (takeBytes cs).map fun (bytes, rest) => (byte :: bytes, rest) := by
  have hlt : byte.toNat < 256 := byte.toNat_lt
  have hhigh := hexValue_digit ⟨byte.toNat / 16, by omega⟩
  have hlow := hexValue_digit ⟨byte.toNat % 16, by omega⟩
  have hbyte : UInt8.ofNat (16 * (byte.toNat / 16) + byte.toNat % 16) = byte := by
    rw [Nat.div_add_mod, UInt8.ofNat_toNat]
  have hquote := quote_notMem_hexByte byte
  simp only [hexByte, List.mem_cons, not_or] at hquote
  rw [hexByte, List.cons_append, List.cons_append, List.nil_append, takeBytes, hhigh, hlow]
  · simp only [Option.bind_eq_bind, Option.bind_some, hbyte]
    cases takeBytes cs <;> rfl
  · intro h
    exact hquote.1 h.symm

theorem takeBytes_flatMap (bytes : List UInt8) (rest : List Char) :
    takeBytes (bytes.flatMap hexByte ++ '\x27' :: rest) = some (bytes, rest) := by
  induction bytes with
  | nil => rfl
  | cons byte bytes ih =>
    rw [List.flatMap_cons, List.append_assoc, takeBytes_hexByte, ih]
    rfl

/-! ## Literals -/

def Value.isFloat : Value → Bool
  | .float _ => true
  | _ => false

/-- What may follow the literal of a value: after a text no quote, after a number no digit. -/
def Value.EndsBefore (v : Value) (rest : List Char) : Prop :=
  match v with
  | .text _ => rest.head? ≠ some '\x27'
  | .int _ => ∀ c ∈ rest.head?, c.isDigit = false
  | _ => True

theorem takeLiteral_of_notMem {c : Char} (hc : c ∉ ['\x27', 'X', 'N', 'T', 'F']) (cs : List Char) :
    takeLiteral (c :: cs) = do
      let (n, rest) ← takeInt (c :: cs)
      return (.int (← int64? n), rest) := by
  unfold takeLiteral
  split
  iterate 5
    · rename_i heq
      cases heq
      exact absurd (by decide) hc
  · rfl

theorem takeLiteral_int (n : Int64) {rest : List Char}
    (hrest : ∀ c ∈ rest.head?, c.isDigit = false) :
    takeLiteral ((Int.repr n.toInt).toList ++ rest) = some (.int n, rest) := by
  obtain ⟨c, cs, hrepr, hc⟩ := exists_repr_eq_cons n.toInt
  have hfirst : c ∉ ['\x27', 'X', 'N', 'T', 'F'] := by
    simp only [List.mem_cons, List.not_mem_nil, or_false]
    rintro (rfl | rfl | rfl | rfl | rfl) <;> rcases hc with hc | hc <;> cases hc
  have hint := takeInt_repr n.toInt hrest
  rw [hrepr, List.cons_append] at hint ⊢
  rw [takeLiteral_of_notMem hfirst, hint]
  simp [int64_toInt]

/-- A literal is read up to its end, and what follows is returned as it stands. -/
theorem takeLiteral_literal {v : Value} (hv : v.isFloat = false) {rest : List Char}
    (hrest : v.EndsBefore rest) : takeLiteral (v.literal.toList ++ rest) = some (v, rest) := by
  cases v with
  | null => rfl
  | bool b => cases b <;> rfl
  | int n => exact takeLiteral_int n hrest
  | float x => cases hv
  | text s =>
    simp only [Value.literal, String.toList_ofList, enclose, List.cons_append, List.append_assoc,
      List.nil_append, takeLiteral, takeQuoted_doubled s.toList hrest, Option.map_some,
      String.ofList_toList]
  | blob bytes =>
    have hletter : "X".toList = ['X'] := rfl
    simp only [Value.literal, String.toList_append, String.toList_ofList, hletter, List.cons_append,
      List.append_assoc, List.nil_append, takeLiteral, takeBytes_flatMap, Option.map_some]

theorem Value.decode_literal {v : Value} (hv : v.isFloat = false) {rest : String}
    (hrest : v.EndsBefore rest.toList) : Value.decode (v.literal ++ rest) = some (v, rest) := by
  simp only [Value.decode, String.toList_append, takeLiteral_literal hv hrest, Option.map_some,
    String.ofList_toList]

/-- The text does not begin with a quote or a digit. -/
def StartsApart (text : String) : Prop :=
  ∀ c ∈ text.toList.head?, c ≠ '\x27' ∧ c.isDigit = false

instance (text : String) : Decidable (StartsApart text) :=
  decidable_of_iff (text.toList.head?.all (fun c => c != '\x27' && !c.isDigit) = true) (by
    simp only [StartsApart, Option.all_eq_true, Option.mem_def, Bool.and_eq_true, bne_iff_ne,
      Bool.not_eq_true'])

theorem StartsApart.endsBefore {rest : String} (h : StartsApart rest) (v : Value) :
    v.EndsBefore rest.toList := by
  cases v with
  | text s => exact fun hquote => (h _ hquote).1 rfl
  | int n => exact fun c hc => (h c hc).2
  | _ => trivial

/-- There is a decoder for literals: of every value that is not a double, and before every text that
does not begin with a quote or a digit, it gives back the value and the text. A letter may follow.
So values that are not doubles and have one literal are equal. -/
theorem literals_decodable :
    (∀ (v : Value) (rest : String), v.isFloat = false → StartsApart rest →
      Value.decode (v.literal ++ rest) = some (v, rest)) ∧
    ∀ v w : Value, v.isFloat = false → w.isFloat = false → v.literal = w.literal → v = w := by
  constructor
  · intro v rest hv hrest
    exact Value.decode_literal hv (hrest.endsBefore v)
  · intro v w hv hw heq
    have hempty : StartsApart "" := by decide
    have hread := Value.decode_literal hv (hempty.endsBefore v)
    rw [heq, Value.decode_literal hw (hempty.endsBefore w)] at hread
    cases hread
    rfl

/-- A text of quotes that looks like a blob and a number, the smallest number before a letter, and
an empty blob; and a number and a text of its digits. -/
theorem literals_decodable_sample :
    let text : Value := .text "X\x27\x2700-1\x27"
    let smallest : Value := .int Int64.minValue
    let blob : Value := .blob []
    StartsApart ", \x27b\x27" ∧ StartsApart "e1" ∧ StartsApart "" ∧
      Value.decode (text.literal ++ ", \x27b\x27") = some (text, ", \x27b\x27") ∧
      Value.decode (smallest.literal ++ "e1") = some (smallest, "e1") ∧
      Value.decode (blob.literal ++ "") = some (blob, "") ∧
      smallest.literal ≠ (Value.text "-9223372036854775808").literal := by
  intro text smallest blob
  obtain ⟨hdecode, hinjective⟩ := literals_decodable
  refine ⟨by decide, by decide, by decide, hdecode text _ rfl (by decide),
    hdecode smallest _ rfl (by decide), hdecode blob _ rfl (by decide), fun heq => ?_⟩
  exact Value.noConfusion (hinjective smallest _ rfl rfl heq)

end SqlSelect
