import SqlSelect.Proofs.NameSplitting

/-!
# Where an alias is split off

A text with an alias is split at its leftmost separator, four characters that are ` as ` up to the
case of ASCII letters. The separator can also be found in the bytes of the text: they are ASCII,
and in UTF-8 an ASCII byte is a character of its own. So the first offset at which the bytes of
` as ` occur in the lowered text is a place between two characters, before and after the separator,
and since lowering ASCII letters changes no lengths it is the same place in the text as given.
-/

namespace SqlSelect

namespace Text

/-! ## Bytes -/

/-- The UTF-8 bytes of a text. -/
def bytes (text : String) : List UInt8 :=
  text.toUTF8.data.toList

/-- The UTF-8 bytes of a list of characters. -/
def encode (cs : List Char) : List UInt8 :=
  cs.flatMap String.utf8EncodeChar

theorem bytes_eq_encode (text : String) : bytes text = encode text.toList := by
  rw [bytes, String.toUTF8_eq_toByteArray, ← String.utf8Encode_toList, List.utf8Encode,
    List.toList_data_toByteArray, encode]

theorem utf8ByteSize_ofList (cs : List Char) :
    (String.ofList cs).utf8ByteSize = (encode cs).length := by
  rw [← String.size_toByteArray, String.toByteArray_ofList, List.utf8Encode, encode]
  simp

theorem utf8EncodeChar_of_lt {c : Char} (h : c.toNat < 128) :
    String.utf8EncodeChar c = [UInt8.ofNat c.toNat] := by
  have hc : c.val.toNat ≤ 0x7f := Nat.le_of_lt_succ h
  simp only [String.utf8EncodeChar, if_pos hc]
  rfl

/-- No byte of a character beyond ASCII is an ASCII byte. -/
theorem le_of_mem_utf8EncodeChar {c : Char} (h : 128 ≤ c.toNat) {b : UInt8}
    (hb : b ∈ String.utf8EncodeChar c) : 128 ≤ b.toNat := by
  have hc : ¬c.val.toNat ≤ 0x7f := Nat.not_le_of_lt h
  simp only [String.utf8EncodeChar, if_neg hc] at hb
  split at hb
  · simp only [List.mem_cons, List.not_mem_nil, or_false] at hb
    rcases hb with rfl | rfl <;> simp <;> omega
  split at hb
  · simp only [List.mem_cons, List.not_mem_nil, or_false] at hb
    rcases hb with rfl | rfl | rfl <;> simp <;> omega
  · simp only [List.mem_cons, List.not_mem_nil, or_false] at hb
    rcases hb with rfl | rfl | rfl | rfl <;> simp <;> omega

/-! ## ASCII letters -/

theorem toLower_of_le {c : Char} (h : 128 ≤ c.toNat) : c.toLower = c := by
  refine dif_neg fun hupper => ?_
  have hz : c.toNat ≤ 'Z'.toNat := hupper.2
  exact absurd (Nat.le_trans h hz) (by decide)

/-- A statement about ASCII characters can be checked for their codes one by one. -/
theorem of_lt_of_all {p : Char → Bool} (h : (List.range 128).all (fun n => p (Char.ofNat n)) = true)
    {c : Char} (hc : c.toNat < 128) : p c = true := by
  have hcode := List.all_eq_true.mp h c.toNat (List.mem_range.mpr hc)
  rwa [Char.ofNat_toNat] at hcode

theorem length_utf8EncodeChar_toLower (c : Char) :
    (String.utf8EncodeChar c.toLower).length = (String.utf8EncodeChar c).length := by
  by_cases hc : c.toNat < 128
  · have hlower : c.toLower.toNat < 128 := by
      simpa using of_lt_of_all (p := fun c => decide (c.toLower.toNat < 128)) (by decide +kernel) hc
    rw [utf8EncodeChar_of_lt hc, utf8EncodeChar_of_lt hlower]
    rfl
  · rw [toLower_of_le (Nat.le_of_not_lt hc)]

theorem encode_cons (c : Char) (cs : List Char) :
    encode (c :: cs) = String.utf8EncodeChar c ++ encode cs :=
  List.flatMap_cons

theorem encode_append (cs ds : List Char) : encode (cs ++ ds) = encode cs ++ encode ds :=
  List.flatMap_append

/-- Lowering ASCII letters keeps the number of bytes. -/
theorem length_encode_map_toLower (cs : List Char) :
    (encode (cs.map Char.toLower)).length = (encode cs).length := by
  induction cs with
  | nil => rfl
  | cons c cs ih =>
    rw [List.map_cons, encode_cons, encode_cons, List.length_append, List.length_append, ih,
      length_utf8EncodeChar_toLower]

theorem length_encode_lt {short long : List Char} (h : short <+: long)
    (hlt : short.length < long.length) : (encode short).length < (encode long).length := by
  obtain ⟨rest, rfl⟩ := h
  cases rest with
  | nil => simp at hlt
  | cons c rest =>
    have hc := List.length_pos_iff.mpr (String.utf8EncodeChar_ne_nil (c := c))
    rw [encode_append, encode_cons, List.length_append, List.length_append]
    omega

/-! ## Occurrences in bytes -/

theorem toNat_ofNat_of_lt {n : Nat} (h : n < 128) : (UInt8.ofNat n).toNat = n :=
  UInt8.toNat_ofNat_of_lt (Nat.lt_trans h (by decide))

/-- ASCII characters whose bytes begin a text begin the text. -/
theorem prefix_of_encode_prefix {needle cs : List Char} (hneedle : ∀ c ∈ needle, c.toNat < 128)
    (h : encode needle <+: encode cs) : needle <+: cs := by
  induction needle generalizing cs with
  | nil => exact List.nil_prefix
  | cons d needle ih =>
    obtain ⟨hd, hneedle⟩ := List.forall_mem_cons.mp hneedle
    rw [encode_cons, utf8EncodeChar_of_lt hd, List.singleton_append] at h
    cases cs with
    | nil => exact absurd h (by simp [encode])
    | cons c cs =>
      rw [encode_cons] at h
      by_cases hc : c.toNat < 128
      · rw [utf8EncodeChar_of_lt hc, List.singleton_append, List.cons_prefix_cons] at h
        have hcode : d.toNat = c.toNat := by
          rw [← toNat_ofNat_of_lt hd, h.1, toNat_ofNat_of_lt hc]
        rw [Char.toNat_inj.mp hcode]
        exact List.cons_prefix_cons.mpr ⟨rfl, ih hneedle h.2⟩
      · obtain ⟨b, bs, hbs⟩ := List.exists_cons_of_ne_nil (String.utf8EncodeChar_ne_nil (c := c))
        rw [hbs, List.cons_append, List.cons_prefix_cons] at h
        have hb := le_of_mem_utf8EncodeChar (Nat.le_of_not_lt hc) (b := b) (by simp [hbs])
        rw [← h.1, toNat_ofNat_of_lt hd] at hb
        omega

/-- The bytes of ASCII characters occur in those of a text only where the characters do. -/
theorem exists_of_encode_prefix_drop {needle cs : List Char} {i : Nat} (hne : needle ≠ [])
    (hneedle : ∀ c ∈ needle, c.toNat < 128) (h : encode needle <+: (encode cs).drop i) :
    ∃ front rest, cs = front ++ needle ++ rest ∧ (encode front).length = i := by
  obtain ⟨d, needle', rfl⟩ := List.exists_cons_of_ne_nil hne
  have hd : d.toNat < 128 := hneedle d List.mem_cons_self
  induction cs generalizing i with
  | nil =>
    rw [encode_cons, utf8EncodeChar_of_lt hd] at h
    simp [encode] at h
  | cons c cs ih =>
    by_cases hi : i = 0
    · subst hi
      obtain ⟨rest, hrest⟩ := prefix_of_encode_prefix hneedle h
      exact ⟨[], rest, hrest.symm, rfl⟩
    · rw [encode_cons c] at h
      by_cases hinside : i < (String.utf8EncodeChar c).length
      · -- an offset inside a character is that of a byte beyond ASCII
        have hc : 128 ≤ c.toNat := by
          by_contra hc
          rw [utf8EncodeChar_of_lt (Nat.lt_of_not_le hc), List.length_singleton] at hinside
          omega
        rw [List.drop_append_of_le_length (Nat.le_of_lt hinside),
          List.drop_eq_getElem_cons hinside, encode_cons, utf8EncodeChar_of_lt hd,
          List.singleton_append, List.cons_append, List.cons_prefix_cons] at h
        have hb := le_of_mem_utf8EncodeChar hc (List.getElem_mem hinside)
        rw [← h.1, toNat_ofNat_of_lt hd] at hb
        omega
      · rw [List.drop_append, List.drop_eq_nil_of_le (Nat.le_of_not_lt hinside),
          List.nil_append] at h
        obtain ⟨front, rest, rfl, hlength⟩ := ih h
        refine ⟨c :: front, rest, by simp, ?_⟩
        rw [encode_cons, List.length_append, hlength]
        omega

/-- The first offset at which the given bytes occur in others. -/
def offset? (needle bytes : List UInt8) : Option Nat :=
  (List.range (bytes.length + 1)).find? fun i => needle.isPrefixOf (bytes.drop i)

theorem offset?_eq_some {needle bytes : List UInt8} {i : Nat} (h : offset? needle bytes = some i) :
    needle <+: bytes.drop i ∧ ∀ j < i, ¬needle <+: bytes.drop j := by
  obtain ⟨hi, -, hfirst⟩ := List.find?_range_eq_some.mp h
  refine ⟨List.isPrefixOf_iff_prefix.mp hi, fun j hj hprefix => ?_⟩
  have hnot := hfirst j hj
  rw [List.isPrefixOf_iff_prefix.mpr hprefix] at hnot
  cases hnot

theorem not_prefix_of_offset?_eq_none {needle bytes : List UInt8} (h : offset? needle bytes = none)
    {i : Nat} (hi : i ≤ bytes.length) : ¬needle <+: bytes.drop i := by
  intro hprefix
  have hnot := List.find?_eq_none.mp h i (List.mem_range.mpr (Nat.lt_succ_of_le hi))
  exact hnot (List.isPrefixOf_iff_prefix.mpr hprefix)

end Text

/-! ## Separators -/

namespace Identifier

/-- Four characters that are ` as ` up to the case of ASCII letters. -/
def IsSeparator (m : List Char) : Prop :=
  m.map Char.toLower = [' ', 'a', 's', ' ']

theorem eq_blank_of_toLower {c : Char} (h : c.toLower = ' ') : c = ' ' := by
  by_cases hc : c.toNat < 128
  · have hall := Text.of_lt_of_all (p := fun c => decide (c.toLower = ' ' → c = ' '))
      (by decide +kernel) hc
    exact of_decide_eq_true hall h
  · rwa [Text.toLower_of_le (Nat.le_of_not_lt hc)] at h

theorem afterAs?_eq_some_iff {cs rest : List Char} :
    afterAs? cs = some rest ↔ ∃ m, IsSeparator m ∧ cs = m ++ rest := by
  constructor
  · intro h
    obtain ⟨a, s, rfl, ha, hs⟩ := afterAs?_eq_some h
    refine ⟨[' ', a, s, ' '], ?_, rfl⟩
    simp only [IsSeparator, List.map_cons, List.map_nil, ha, hs]
    decide
  · rintro ⟨m, hm, rfl⟩
    obtain ⟨x, m, rfl, hx, hm⟩ := List.map_eq_cons_iff.mp hm
    obtain ⟨a, m, rfl, ha, hm⟩ := List.map_eq_cons_iff.mp hm
    obtain ⟨s, m, rfl, hs, hm⟩ := List.map_eq_cons_iff.mp hm
    obtain ⟨y, m, rfl, hy, hm⟩ := List.map_eq_cons_iff.mp hm
    rw [eq_blank_of_toLower hx, eq_blank_of_toLower hy, List.map_eq_nil_iff.mp hm]
    simp [afterAs?, ha, hs]

/-- The text is cut around a separator, and no other one begins further to the left. -/
structure LeftmostSplit (cs before m rest : List Char) : Prop where
  eq_append : cs = before ++ m ++ rest
  isSeparator : IsSeparator m
  leftmost : ∀ before' m' rest', cs = before' ++ m' ++ rest' → IsSeparator m' →
    before.length ≤ before'.length

theorem LeftmostSplit.unique {cs before m rest before' m' rest' : List Char}
    (h : LeftmostSplit cs before m rest) (h' : LeftmostSplit cs before' m' rest') :
    before = before' ∧ rest = rest' := by
  have hlength : before.length = before'.length :=
    Nat.le_antisymm (h.leftmost _ _ _ h'.eq_append h'.isSeparator)
      (h'.leftmost _ _ _ h.eq_append h.isSeparator)
  have hseparators : m.length = m'.length := by
    have hm := congrArg List.length (h.isSeparator.trans h'.isSeparator.symm)
    simpa using hm
  have heq := h.eq_append.symm.trans h'.eq_append
  rw [List.append_assoc, List.append_assoc] at heq
  obtain ⟨hbefore, htail⟩ := List.append_inj heq hlength
  exact ⟨hbefore, (List.append_inj htail hseparators).2⟩

/-- Splitting finds the leftmost separator. -/
theorem leftmostSplit_of_splitAs? {cs before rest : List Char}
    (h : splitAs? cs = some (before, rest)) : ∃ m, LeftmostSplit cs before m rest := by
  refine splitAs?_induction (motive := fun cs before => ∃ m, LeftmostSplit cs before m rest) ?_ ?_ h
  · intro cs hafter
    obtain ⟨m, hm, rfl⟩ := afterAs?_eq_some_iff.mp hafter
    exact ⟨m, rfl, hm, fun _ _ _ _ _ => Nat.zero_le _⟩
  · rintro c cs before hafter - ⟨m, hsplit⟩
    refine ⟨m, by rw [hsplit.eq_append]; rfl, hsplit.isSeparator, ?_⟩
    intro before' m' rest' heq hm'
    cases before' with
    | nil =>
      rw [afterAs?_eq_some_iff.mpr ⟨m', hm', heq⟩] at hafter
      cases hafter
    | cons c' before' =>
      obtain ⟨-, hcs⟩ := List.cons.inj heq
      exact Nat.succ_le_succ (hsplit.leftmost before' m' rest' hcs hm')

theorem splitAs?_eq_none_iff {cs : List Char} :
    splitAs? cs = none ↔ ∀ before m rest, cs = before ++ m ++ rest → ¬IsSeparator m := by
  constructor
  · rintro hnone before m rest rfl hm
    obtain ⟨a, s, hafter, ha, hs⟩ := afterAs?_eq_some (afterAs?_eq_some_iff.mpr ⟨m, hm, rfl⟩)
    rw [List.append_assoc, hafter] at hnone
    exact splitAs?_ne_none ha hs before rest hnone
  · intro hnone
    cases h : splitAs? cs with
    | none => rfl
    | some halves =>
      obtain ⟨m, hsplit⟩ := leftmostSplit_of_splitAs? h
      exact absurd hsplit.isSeparator (hnone _ _ _ hsplit.eq_append)

theorem splitAs?_eq_some_iff {cs before rest : List Char} :
    splitAs? cs = some (before, rest) ↔ ∃ m, LeftmostSplit cs before m rest := by
  refine ⟨leftmostSplit_of_splitAs?, ?_⟩
  rintro ⟨m, hsplit⟩
  cases h : splitAs? cs with
  | none => exact absurd hsplit.isSeparator (splitAs?_eq_none_iff.mp h _ _ _ hsplit.eq_append)
  | some halves =>
    obtain ⟨m', hsplit'⟩ := leftmostSplit_of_splitAs? h
    obtain ⟨hbefore, hrest⟩ := hsplit'.unique hsplit
    rw [← hbefore, ← hrest]

/-- The offset of the first separator, found in the bytes of the lowered text. -/
def separatorOffset? (text : String) : Option Nat :=
  Text.offset? (Text.bytes " as ") (Text.bytes text.toLower)

theorem bytes_toLower (text : String) :
    Text.bytes text.toLower = Text.encode (text.toList.map Char.toLower) := by
  have hlower : text.toLower.toList = text.toList.map Char.toLower := String.toList_map
  rw [Text.bytes_eq_encode, hlower]

theorem IsSeparator.encode_map {m : List Char} (h : IsSeparator m) :
    Text.encode (m.map Char.toLower) = Text.bytes " as " := by
  rw [h, Text.bytes_eq_encode]
  rfl

/-- A separator is found at the offset where it stands. -/
theorem IsSeparator.bytes_prefix {m : List Char} (hm : IsSeparator m) {text : String}
    {before rest : List Char} (h : text.toList = before ++ m ++ rest) :
    Text.bytes " as " <+: (Text.bytes text.toLower).drop (Text.encode before).length := by
  rw [bytes_toLower, h, List.map_append, List.map_append, List.append_assoc, Text.encode_append,
    ← Text.length_encode_map_toLower before, List.drop_left, Text.encode_append, hm.encode_map]
  exact List.prefix_append _ _

/-- The offset that is found is the place of the leftmost separator. -/
theorem exists_of_separatorOffset? {text : String} {i : Nat} (h : separatorOffset? text = some i) :
    ∃ before m rest, LeftmostSplit text.toList before m rest ∧
      (Text.encode before).length = i := by
  obtain ⟨hfound, hfirst⟩ := Text.offset?_eq_some h
  rw [bytes_toLower, Text.bytes_eq_encode] at hfound
  have hascii : ∀ c ∈ " as ".toList, c.toNat < 128 := by simp
  obtain ⟨front, tail, hmap, hlength⟩ :=
    Text.exists_of_encode_prefix_drop (by decide) hascii hfound
  obtain ⟨head, rest, htext, hhead, -⟩ := List.map_eq_append_iff.mp hmap
  obtain ⟨before, m, rfl, hbefore, hm⟩ := List.map_eq_append_iff.mp hhead
  rw [← hbefore, Text.length_encode_map_toLower] at hlength
  refine ⟨before, m, rest, ⟨htext, hm, ?_⟩, hlength⟩
  intro before' m' rest' heq hm'
  have hoccurs := hm'.bytes_prefix heq
  have hle : i ≤ (Text.encode before').length := by
    by_contra hlt
    exact hfirst _ (Nat.lt_of_not_le hlt) hoccurs
  by_contra hshort
  have hfront : before <+: text.toList := ⟨m ++ rest, by rw [htext, List.append_assoc]⟩
  have hfront' : before' <+: text.toList := ⟨m' ++ rest', by rw [heq, List.append_assoc]⟩
  have hprefix : before' <+: before :=
    List.prefix_of_prefix_length_le hfront' hfront (Nat.le_of_lt (Nat.lt_of_not_le hshort))
  have hfewer := Text.length_encode_lt hprefix (Nat.lt_of_not_le hshort)
  omega

theorem splitAs?_eq_none_of_separatorOffset? {text : String} (h : separatorOffset? text = none) :
    splitAs? text.toList = none := by
  refine splitAs?_eq_none_iff.mpr fun before m rest heq hm => ?_
  refine Text.not_prefix_of_offset?_eq_none h ?_ (hm.bytes_prefix heq)
  rw [bytes_toLower, Text.length_encode_map_toLower, heq, List.append_assoc, Text.encode_append,
    List.length_append]
  exact Nat.le_add_right _ _

theorem splitAlias_of_splitAs? {text : String} {before rest : List Char}
    (h : splitAs? text.toList = some (before, rest)) :
    splitAlias text =
      (Text.trim (String.ofList before), some (Text.trim (String.ofList rest))) := by
  rw [splitAlias, h, Text.trim, Text.trim, String.toList_ofList, String.toList_ofList]

theorem splitAlias_of_splitAs?_eq_none {text : String} (h : splitAs? text.toList = none) :
    splitAlias text = (text, none) := by
  rw [splitAlias, h]

/-- A beginning of a text ends between two characters. -/
theorem isValid_of_eq_append {text : String} {front rest : List Char}
    (h : text.toList = front ++ rest) :
    (⟨(Text.encode front).length⟩ : String.Pos.Raw).IsValid text := by
  rw [String.Pos.Raw.isValid_iff_exists_append]
  refine ⟨String.ofList front, String.ofList rest, ?_, ?_⟩
  · rw [← String.ofList_append, ← h, String.ofList_toList]
  · rw [← Text.utf8ByteSize_ofList]
    rfl

theorem IsSeparator.length_encode {m : List Char} (h : IsSeparator m) :
    (Text.encode m).length = 4 := by
  rw [← Text.length_encode_map_toLower, h.encode_map]
  decide +kernel

end Identifier

open Identifier

/-- An alias is split off at the leftmost separator, if there is one. Its place can be found in the
bytes of the lowered text: the offset stands between two characters of the text itself, and so does
the one four bytes on, and cutting there gives the same halves. -/
theorem alias_split_leftmost (text : String) :
    (∀ expression label, splitAlias text = (expression, some label) ↔
      ∃ before m rest : String,
        LeftmostSplit text.toList before.toList m.toList rest.toList ∧
        expression = Text.trim before ∧ label = Text.trim rest) ∧
    (∀ expression, splitAlias text = (expression, none) ↔
      expression = text ∧
      ∀ before m rest, text.toList = before ++ m ++ rest → ¬IsSeparator m) ∧
    (∀ i, separatorOffset? text = some i →
      (⟨i⟩ : String.Pos.Raw).IsValid text ∧ (⟨i + 4⟩ : String.Pos.Raw).IsValid text ∧
      ∃ before m rest : String, text = before ++ m ++ rest ∧
        before.utf8ByteSize = i ∧ m.utf8ByteSize = 4 ∧
        splitAlias text = (Text.trim before, some (Text.trim rest))) ∧
    (separatorOffset? text = none → splitAlias text = (text, none)) := by
  refine ⟨fun expression label => ⟨?_, ?_⟩, fun expression => ⟨?_, ?_⟩, ?_, ?_⟩
  · intro h
    obtain ⟨before, rest, hsplit, rfl, rfl⟩ := splitAlias_eq_some h
    obtain ⟨m, hleftmost⟩ := splitAs?_eq_some_iff.mp hsplit
    refine ⟨String.ofList before, String.ofList m, String.ofList rest, ?_, ?_, ?_⟩
    · simpa only [String.toList_ofList] using hleftmost
    · rw [Text.trim, String.toList_ofList]
    · rw [Text.trim, String.toList_ofList]
  · rintro ⟨before, m, rest, hleftmost, rfl, rfl⟩
    have hsplit := splitAlias_of_splitAs? (splitAs?_eq_some_iff.mpr ⟨_, hleftmost⟩)
    rwa [String.ofList_toList, String.ofList_toList] at hsplit
  · intro h
    obtain ⟨hnone, rfl⟩ := splitAlias_eq_none h
    exact ⟨rfl, splitAs?_eq_none_iff.mp hnone⟩
  · rintro ⟨rfl, hnone⟩
    exact splitAlias_of_splitAs?_eq_none (splitAs?_eq_none_iff.mpr hnone)
  · intro i hi
    obtain ⟨before, m, rest, hleftmost, rfl⟩ := exists_of_separatorOffset? hi
    have htext := hleftmost.eq_append
    have hm := hleftmost.isSeparator.length_encode
    refine ⟨isValid_of_eq_append (htext.trans (List.append_assoc _ _ _)), ?_,
      String.ofList before, String.ofList m, String.ofList rest, ?_,
      Text.utf8ByteSize_ofList before, (Text.utf8ByteSize_ofList m).trans hm,
      splitAlias_of_splitAs? (splitAs?_eq_some_iff.mpr ⟨m, hleftmost⟩)⟩
    · have hend := isValid_of_eq_append htext
      rwa [Text.encode_append, List.length_append, hm] at hend
    · rw [← String.ofList_append, ← String.ofList_append, ← htext, String.ofList_toList]
  · exact fun h => splitAlias_of_splitAs?_eq_none (splitAs?_eq_none_of_separatorOffset? h)

/-- The first of two separators counts, and a letter of two bytes before it moves the offset on. -/
theorem alias_split_leftmost_sample :
    separatorOffset? "straße As as x" = some 7 ∧
    (⟨7⟩ : String.Pos.Raw).IsValid "straße As as x" ∧
    (⟨7 + 4⟩ : String.Pos.Raw).IsValid "straße As as x" ∧
    splitAlias "straße As as x" = ("straße", some "as x") ∧
    separatorOffset? "straßeas x" = none ∧ splitAlias "straßeas x" = ("straßeas x", none) := by
  have hsome : separatorOffset? "straße As as x" = some 7 := by decide +kernel
  have hnone : separatorOffset? "straßeas x" = none := by decide +kernel
  obtain ⟨-, -, hfound, -⟩ := alias_split_leftmost "straße As as x"
  obtain ⟨-, -, -, hmissing⟩ := alias_split_leftmost "straßeas x"
  obtain ⟨hstart, hend, -⟩ := hfound 7 hsome
  exact ⟨hsome, hstart, hend, by decide +kernel, hnone, hmissing hnone⟩

end SqlSelect
