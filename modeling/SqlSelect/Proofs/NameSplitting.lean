import SqlSelect.Proofs.NameDecoding
import SqlSelect.Proofs.Trimming

/-!
# Where names are split

A name is split at its leftmost separator and its expression at the dots. Trimming a text trims the
outermost parts and leaves the splitting as it is, unless all that stands on one side of a separator
is blank. The weight of a text, which counts what is not blank, tells apart the cases in which the
splitting changes.
-/

namespace SqlSelect

/-! ## The weight of a text -/

namespace Text

/-- How many characters are not blank. -/
def weight (cs : List Char) : Nat :=
  cs.countP (!isBlank ·)

theorem weight_cons (c : Char) (cs : List Char) :
    weight (c :: cs) = weight cs + if isBlank c = true then 0 else 1 := by
  cases h : isBlank c <;> simp [weight, h]

theorem weight_append (xs ys : List Char) : weight (xs ++ ys) = weight xs + weight ys :=
  List.countP_append

theorem weight_trimRight (cs : List Char) : weight (trimRight cs) = weight cs := by
  induction cs with
  | nil => rfl
  | cons c cs ih =>
    rw [trimRight_cons, weight_cons, ← ih]
    split
    · rename_i h
      rw [h.2, if_pos h.1, Nat.add_zero]
    · rw [weight_cons]

theorem weight_trimChars (cs : List Char) : weight (trimChars cs) = weight cs := by
  rw [trimChars, weight_trimRight]
  induction cs with
  | nil => rfl
  | cons c cs ih =>
    by_cases hc : isBlank c = true
    · rw [List.dropWhile_cons_of_pos hc, ih, weight_cons, if_pos hc, Nat.add_zero]
    · rw [List.dropWhile_cons_of_neg hc]

end Text

namespace Identifier

open Sql (splitDots_ne_nil)
open Text (isBlank trimChars trimRight weight)

/-! ## Separators -/

theorem afterAs?_eq_some {cs rest : List Char} (h : afterAs? cs = some rest) :
    ∃ a s, cs = ' ' :: a :: s :: ' ' :: rest ∧ a.toLower = 'a' ∧ s.toLower = 's' := by
  unfold afterAs? at h
  split at h
  · split_ifs at h with hletters
    cases h
    exact ⟨_, _, rfl, hletters⟩
  · cases h

theorem afterAs?_append {cs rest : List Char} (h : afterAs? cs = some rest) (t : List Char) :
    afterAs? (cs ++ t) = some (rest ++ t) := by
  obtain ⟨a, s, rfl, ha, hs⟩ := afterAs?_eq_some h
  simp [afterAs?, ha, hs]

theorem afterAs?_append_of_none {cs : List Char} (h : afterAs? cs = none) (hlength : 4 ≤ cs.length)
    (t : List Char) : afterAs? (cs ++ t) = none := by
  rcases cs with _ | ⟨c₁, _ | ⟨c₂, _ | ⟨c₃, _ | ⟨c₄, cs⟩⟩⟩⟩
  iterate 4 · exact absurd hlength (by simp)
  cases hafter : afterAs? (c₁ :: c₂ :: c₃ :: c₄ :: cs ++ t) with
  | none => rfl
  | some rest =>
    obtain ⟨a, s, heq, ha, hs⟩ := afterAs?_eq_some hafter
    cases heq
    simp [afterAs?, ha, hs] at h

theorem splitAs?_cons_of_some {c : Char} {cs rest : List Char}
    (h : afterAs? (c :: cs) = some rest) : splitAs? (c :: cs) = some ([], rest) := by
  rw [splitAs?, h]

theorem splitAs?_cons_of_none {c : Char} {cs : List Char} (h : afterAs? (c :: cs) = none) :
    splitAs? (c :: cs) = (splitAs? cs).map fun (before, rest) => (c :: before, rest) := by
  rw [splitAs?, h]

/-- A text with a separator begins with one, or with a character before a text that has one. -/
theorem splitAs?_induction {rest : List Char} {motive : List Char → List Char → Prop}
    (found : ∀ cs, afterAs? cs = some rest → motive cs [])
    (skip : ∀ c cs before, afterAs? (c :: cs) = none → splitAs? cs = some (before, rest) →
      motive cs before → motive (c :: cs) (c :: before))
    {cs before : List Char} (h : splitAs? cs = some (before, rest)) : motive cs before := by
  induction cs generalizing before with
  | nil => cases h
  | cons c cs ih =>
    cases hafter : afterAs? (c :: cs) with
    | some rest' =>
      rw [splitAs?_cons_of_some hafter] at h
      cases h
      exact found _ hafter
    | none =>
      rw [splitAs?_cons_of_none hafter] at h
      obtain ⟨⟨before', rest'⟩, htail, heq⟩ := Option.map_eq_some_iff.mp h
      cases heq
      exact skip c cs before' hafter htail (ih htail)

theorem splitAs?_eq_append {cs before rest : List Char} (h : splitAs? cs = some (before, rest)) :
    ∃ a s, cs = before ++ ' ' :: a :: s :: ' ' :: rest ∧ a.toLower = 'a' ∧ s.toLower = 's' := by
  refine splitAs?_induction (motive := fun cs before => ∃ a s,
    cs = before ++ ' ' :: a :: s :: ' ' :: rest ∧ a.toLower = 'a' ∧ s.toLower = 's') ?_ ?_ h
  · exact fun cs hafter => afterAs?_eq_some hafter
  · rintro c cs before - - ⟨a, s, rfl, hletters⟩
    exact ⟨a, s, rfl, hletters⟩

/-- What follows a text does not move its leftmost separator. -/
theorem splitAs?_append {cs before rest : List Char} (h : splitAs? cs = some (before, rest))
    (t : List Char) : splitAs? (cs ++ t) = some (before, rest ++ t) := by
  refine splitAs?_induction (motive := fun cs before =>
    splitAs? (cs ++ t) = some (before, rest ++ t)) ?_ ?_ h
  · intro cs hafter
    obtain ⟨a, s, rfl, _⟩ := afterAs?_eq_some hafter
    exact splitAs?_cons_of_some (afterAs?_append hafter t)
  · intro c cs before hafter htail ih
    -- the separator further on keeps what follows out of the first four characters
    have hlength : 4 ≤ (c :: cs).length := by
      obtain ⟨a, s, rfl, _⟩ := splitAs?_eq_append htail
      simp only [List.length_cons, List.length_append]
      omega
    have hnone : afterAs? (c :: (cs ++ t)) = none := afterAs?_append_of_none hafter hlength t
    rw [List.cons_append, splitAs?_cons_of_none hnone, ih]
    rfl

theorem splitAs?_eq_none_of_append {cs t : List Char} (h : splitAs? (cs ++ t) = none) :
    splitAs? cs = none := by
  cases hcs : splitAs? cs with
  | none => rfl
  | some halves =>
    rw [splitAs?_append hcs t] at h
    cases h

theorem splitAs?_eq_none_of_cons {c : Char} {cs : List Char} (h : splitAs? (c :: cs) = none) :
    splitAs? cs = none := by
  cases hafter : afterAs? (c :: cs) with
  | some rest =>
    rw [splitAs?_cons_of_some hafter] at h
    cases h
  | none =>
    rw [splitAs?_cons_of_none hafter] at h
    exact Option.map_eq_none_iff.mp h

theorem splitAs?_trimChars_of_none {cs : List Char} (h : splitAs? cs = none) :
    splitAs? (trimChars cs) = none := by
  have hdrop : splitAs? (cs.dropWhile isBlank) = none := by
    induction cs with
    | nil => rfl
    | cons c cs ih =>
      by_cases hc : isBlank c = true
      · rw [List.dropWhile_cons_of_pos hc]
        exact ih (splitAs?_eq_none_of_cons h)
      · rwa [List.dropWhile_cons_of_neg hc]
  obtain ⟨t, ht⟩ := Text.trimRight_prefix (cs.dropWhile isBlank)
  rw [← ht] at hdrop
  exact splitAs?_eq_none_of_append hdrop

theorem splitAs?_dropWhile {cs before rest : List Char} (h : splitAs? cs = some (before, rest))
    (hbefore : trimChars before ≠ []) :
    splitAs? (cs.dropWhile isBlank) = some (before.dropWhile isBlank, rest) := by
  refine splitAs?_induction (motive := fun cs before => trimChars before ≠ [] →
    splitAs? (cs.dropWhile isBlank) = some (before.dropWhile isBlank, rest)) ?_ ?_ h hbefore
  · exact fun _ _ hnil => absurd rfl hnil
  · intro c cs before hafter htail ih hbefore
    by_cases hc : isBlank c = true
    · rw [List.dropWhile_cons_of_pos hc, List.dropWhile_cons_of_pos hc]
      exact ih (by rwa [Text.trimChars_cons_of_blank hc] at hbefore)
    · rw [List.dropWhile_cons_of_neg hc, List.dropWhile_cons_of_neg hc,
        splitAs?_cons_of_none hafter, htail]
      rfl

theorem splitAs?_ne_none {a s : Char} (ha : a.toLower = 'a') (hs : s.toLower = 's')
    (before rest : List Char) : splitAs? (before ++ ' ' :: a :: s :: ' ' :: rest) ≠ none := by
  induction before with
  | nil => simp [splitAs?, afterAs?, ha, hs]
  | cons c before ih => exact fun h => ih (splitAs?_eq_none_of_cons h)

theorem splitAs?_trimRight {cs before rest : List Char} (h : splitAs? cs = some (before, rest))
    (hrest : trimRight rest ≠ []) : splitAs? (trimRight cs) = some (before, trimRight rest) := by
  obtain ⟨a, s, rfl, ha, hs⟩ := splitAs?_eq_append h
  obtain ⟨t, ht⟩ := Text.trimRight_prefix rest
  have htrim : trimRight (before ++ ' ' :: a :: s :: ' ' :: rest) =
      before ++ ' ' :: a :: s :: ' ' :: trimRight rest := by
    have hfront := Text.trimRight_append_of_ne_nil hrest (before ++ [' ', a, s, ' '])
    simpa using hfront
  rw [htrim]
  cases hsplit : splitAs? (before ++ ' ' :: a :: s :: ' ' :: trimRight rest) with
  | none => exact absurd hsplit (splitAs?_ne_none ha hs _ _)
  | some halves =>
    have hwhole := splitAs?_append hsplit t
    rw [List.append_assoc, List.cons_append, List.cons_append, List.cons_append, List.cons_append,
      ht, h, Option.some.injEq, Prod.mk.injEq] at hwhole
    conv at hwhole => rw [← ht]
    rw [List.append_cancel_right_eq] at hwhole
    rw [hwhole.1, hwhole.2]

theorem splitAlias_eq_some {name expression label : String}
    (h : splitAlias name = (expression, some label)) :
    ∃ before rest, splitAs? name.toList = some (before, rest) ∧
      String.ofList (trimChars before) = expression ∧ String.ofList (trimChars rest) = label := by
  unfold splitAlias at h
  split at h
  · rename_i before rest hsplit
    cases h
    exact ⟨before, rest, hsplit, rfl, rfl⟩
  · cases h

theorem splitAlias_eq_none {name expression : String} (h : splitAlias name = (expression, none)) :
    splitAs? name.toList = none ∧ name = expression := by
  unfold splitAlias at h
  split at h
  · cases h
  · rename_i hsplit
    cases h
    exact ⟨hsplit, rfl⟩

/-- Trimming a text with something on both sides of its leftmost separator trims the two sides. -/
theorem splitAlias_trim {name expression label : String}
    (h : splitAlias name = (expression, some label)) (hexpression : expression ≠ "")
    (hlabel : label ≠ "") : splitAlias (Text.trim name) = (expression, some label) := by
  obtain ⟨before, rest, hsplit, rfl, rfl⟩ := splitAlias_eq_some h
  have hbefore : trimChars before ≠ [] := fun hnil => hexpression (by rw [hnil])
  have hrest : trimRight rest ≠ [] := Text.trimRight_ne_nil fun hnil => hlabel (by rw [hnil])
  have htrimmed := splitAs?_trimRight (splitAs?_dropWhile hsplit hbefore) hrest
  rw [splitAlias, Text.trim, String.toList_ofList, trimChars, htrimmed]
  simp only [Text.trimChars_dropWhile, Text.trimChars_trimRight]

theorem splitAlias_trim_of_none {name : String} (h : splitAs? name.toList = none) :
    splitAlias (Text.trim name) = (Text.trim name, none) := by
  rw [splitAlias, Text.trim, String.toList_ofList, splitAs?_trimChars_of_none h]

theorem trim_eq_of_splitAlias {name expression label : String}
    (h : splitAlias name = (expression, some label)) : Text.trim label = label := by
  obtain ⟨before, rest, _, _, rfl⟩ := splitAlias_eq_some h
  rw [Text.trim, String.toList_ofList, Text.trimChars_trimChars]

/-- A separator has two characters that are not blank. -/
theorem weight_of_splitAs? {cs before rest : List Char} (h : splitAs? cs = some (before, rest)) :
    weight cs = weight before + weight rest + 2 := by
  obtain ⟨a, s, rfl, ha, hs⟩ := splitAs?_eq_append h
  have hletter : ∀ c : Char, c.toLower = 'a' ∨ c.toLower = 's' → isBlank c = false := by
    intro c hc
    by_contra hblank
    have hcode := Sql.toNat_mem_blankCodes (Bool.not_eq_false _ ▸ hblank)
    have hcodes : ∀ n ∈ Sql.blankCodes,
        (Char.ofNat n).toLower ≠ 'a' ∧ (Char.ofNat n).toLower ≠ 's' := by decide
    have hlower := hcodes _ hcode
    rw [Char.ofNat_toNat] at hlower
    exact hc.elim hlower.1 hlower.2
  have hblank : isBlank ' ' = true := by decide
  simp only [Text.weight_append, Text.weight_cons, hletter a (.inl ha), hletter s (.inr hs), hblank]
  simp only [Bool.false_eq_true, ↓reduceIte]
  omega

/-- In a trimmed text something stands before the separator. -/
theorem weight_pos_of_splitAs? {cs before rest : List Char}
    (h : splitAs? (trimChars cs) = some (before, rest)) : 0 < weight before := by
  obtain ⟨a, s, htrim, _⟩ := splitAs?_eq_append h
  cases before with
  | nil => exact absurd (Text.isBlank_head_trimChars htrim) (by decide)
  | cons c before =>
    rw [Text.weight_cons, Text.isBlank_head_trimChars htrim]
    exact Nat.succ_pos _

/-! ## Segments -/

theorem splitDots_cons_of_ne {c : Char} (hc : c ≠ '.') {cs part : List Char}
    {parts : List (List Char)} (h : splitDots cs = part :: parts) :
    splitDots (c :: cs) = (c :: part) :: parts := by
  simp [splitDots, hc, h]

theorem exists_splitDots (cs : List Char) : ∃ part parts, splitDots cs = part :: parts :=
  List.exists_cons_of_ne_nil (splitDots_ne_nil cs)

theorem length_splitDots (cs : List Char) : (splitDots cs).length = cs.count '.' + 1 := by
  induction cs with
  | nil => rfl
  | cons c cs ih =>
    by_cases hc : c = '.'
    · simp [splitDots, hc, ih]
    · obtain ⟨part, parts, hparts⟩ := exists_splitDots cs
      rw [hparts] at ih
      rw [splitDots_cons_of_ne hc hparts, List.count_cons_of_ne hc, ← ih]
      rfl

theorem splitDots_of_notMem {cs : List Char} (h : '.' ∉ cs) : splitDots cs = [cs] := by
  induction cs with
  | nil => rfl
  | cons c cs ih =>
    rw [List.mem_cons, not_or] at h
    exact splitDots_cons_of_ne (Ne.symm h.1) (ih h.2)

theorem splitDots_append_dot (xs ys : List Char) :
    splitDots (xs ++ '.' :: ys) = splitDots xs ++ splitDots ys := by
  induction xs with
  | nil => simp [splitDots]
  | cons x xs ih =>
    by_cases hx : x = '.'
    · simp [splitDots, hx, ih]
    · obtain ⟨part, parts, hparts⟩ := exists_splitDots xs
      rw [hparts, List.cons_append] at ih
      rw [List.cons_append, splitDots_cons_of_ne hx ih, splitDots_cons_of_ne hx hparts,
        List.cons_append]

/-- The parts and the dots between them make up the text. -/
theorem weight_splitDots (cs : List Char) :
    weight (splitDots cs).flatten + (splitDots cs).length = weight cs + 1 := by
  induction cs with
  | nil => rfl
  | cons c cs ih =>
    by_cases hc : c = '.'
    · have hdot : isBlank '.' = false := by decide
      simp only [splitDots, hc, ↓reduceIte, List.flatten_cons, List.nil_append, List.length_cons,
        Text.weight_cons, hdot, Bool.false_eq_true]
      omega
    · obtain ⟨part, parts, hparts⟩ := exists_splitDots cs
      rw [hparts] at ih
      rw [splitDots_cons_of_ne hc hparts]
      simp only [List.flatten_cons, List.cons_append, List.length_cons, Text.weight_cons] at ih ⊢
      omega

theorem weight_flatten_trimChars (parts : List (List Char)) :
    weight (parts.map trimChars).flatten = weight parts.flatten := by
  induction parts with
  | nil => rfl
  | cons part parts ih =>
    rw [List.map_cons, List.flatten_cons, List.flatten_cons, Text.weight_append,
      Text.weight_append, Text.weight_trimChars, ih]

theorem weight_segments (text : String) :
    weight (segments text).flatten + (segments text).length = weight text.toList + 1 := by
  rw [segments, weight_flatten_trimChars, List.length_map, weight_splitDots]

theorem segments_eq_singleton_iff (text : String) (segment : List Char) :
    segments text = [segment] ↔ '.' ∉ text.toList ∧ trimChars text.toList = segment := by
  constructor
  · intro h
    have hlength : (splitDots text.toList).length = 1 := by
      simpa [segments] using congrArg List.length h
    have hdot : '.' ∉ text.toList := by
      rw [length_splitDots] at hlength
      exact List.count_eq_zero.mp (by omega)
    rw [segments, splitDots_of_notMem hdot] at h
    exact ⟨hdot, List.singleton_inj.mp h⟩
  · rintro ⟨hdot, rfl⟩
    rw [segments, splitDots_of_notMem hdot]
    rfl

theorem splitDots_trimRight (cs : List Char) :
    (splitDots (trimRight cs)).map trimRight = (splitDots cs).map trimRight := by
  induction cs with
  | nil => rfl
  | cons c cs ih =>
    obtain ⟨part, parts, hparts⟩ := exists_splitDots cs
    obtain ⟨part', parts', hparts'⟩ := exists_splitDots (trimRight cs)
    have hih := ih
    rw [hparts, hparts', List.map_cons, List.map_cons, List.cons.injEq] at hih
    rw [Text.trimRight_cons]
    split
    · rename_i hnil
      have hc : c ≠ '.' := by
        rintro rfl
        exact absurd hnil.1 (by decide)
      rw [hnil.2] at hparts'
      cases hparts'
      rw [splitDots_cons_of_ne hc hparts, List.map_cons, ← hih.2, Text.trimRight_cons,
        if_pos ⟨hnil.1, hih.1.symm⟩]
      rfl
    · by_cases hc : c = '.'
      · simp [splitDots, hc, ih]
      · rw [splitDots_cons_of_ne hc hparts, splitDots_cons_of_ne hc hparts', List.map_cons,
          List.map_cons, hih.2, Text.trimRight_cons, Text.trimRight_cons, hih.1]

theorem splitDots_dropWhile (cs : List Char) :
    (splitDots (cs.dropWhile isBlank)).map trimChars = (splitDots cs).map trimChars := by
  induction cs with
  | nil => rfl
  | cons c cs ih =>
    by_cases hblank : isBlank c = true
    · have hc : c ≠ '.' := by
        rintro rfl
        exact absurd hblank (by decide)
      obtain ⟨part, parts, hparts⟩ := exists_splitDots cs
      rw [List.dropWhile_cons_of_pos hblank, ih, hparts, splitDots_cons_of_ne hc hparts,
        List.map_cons, List.map_cons, Text.trimChars_cons_of_blank hblank]
    · rw [List.dropWhile_cons_of_neg hblank]

/-- The segments of a text are trimmed, so they do not change when it is. -/
theorem segments_trim (text : String) : segments (Text.trim text) = segments text := by
  have htrim : trimChars ∘ trimRight = trimChars := funext Text.trimChars_trimRight
  have hright := congrArg (List.map trimChars) (splitDots_trimRight (text.toList.dropWhile isBlank))
  rw [List.map_map, List.map_map, htrim] at hright
  rw [segments, Text.trim, String.toList_ofList, trimChars, hright, splitDots_dropWhile, segments]

theorem segments_append_dot (first second : String) :
    segments (first ++ "." ++ second) = segments first ++ segments second := by
  have hdotted : (first ++ "." ++ second).toList = first.toList ++ '.' :: second.toList := by
    simp [String.toList_append]
  rw [segments, hdotted, splitDots_append_dot, List.map_append, segments, segments]

/-! ## Qualified names -/

theorem splitAs?_append_dot {xs ys : List Char} (hxs : splitAs? xs = none)
    (hys : splitAs? ys = none) : splitAs? (xs ++ '.' :: ys) = none := by
  induction xs with
  | nil => simp [splitAs?, afterAs?, hys]
  | cons x xs ih =>
    have hnone : afterAs? (x :: xs ++ '.' :: ys) = none := by
      cases hafter : afterAs? (x :: xs ++ '.' :: ys) with
      | none => rfl
      | some rest =>
        -- a separator has no dot, so one that stands in front is all in the first text
        obtain ⟨a, s, heq, ha, hs⟩ := afterAs?_eq_some hafter
        rcases xs with _ | ⟨y, _ | ⟨z, _ | ⟨w, xs⟩⟩⟩ <;> cases heq
        · exact absurd ha (by decide)
        · exact absurd hs (by decide)
        · simp [splitAs?, afterAs?, ha, hs] at hxs
    rw [List.cons_append] at hnone ⊢
    rw [splitAs?_cons_of_none hnone, ih (splitAs?_eq_none_of_cons hxs)]
    rfl

/-- A trimmed root stays in front of its dot when the qualified name is trimmed. -/
theorem trimChars_append_dot {root : List Char} (hroot : trimChars root = root) (hne : root ≠ [])
    (key : List Char) : trimChars (root ++ '.' :: key) = root ++ trimRight ('.' :: key) := by
  have hkey : trimRight ('.' :: key) ≠ [] := by
    rw [Text.trimRight_cons, if_neg fun h => absurd h.1 (by decide)]
    exact List.cons_ne_nil _ _
  obtain ⟨c, rest, rfl⟩ := List.exists_cons_of_ne_nil hne
  have hc : ¬ isBlank c = true := by
    rw [Text.isBlank_head_trimChars hroot]
    decide
  rw [trimChars, List.cons_append, List.dropWhile_cons_of_neg hc, ← List.cons_append,
    Text.trimRight_append_of_ne_nil hkey]

end Identifier

end SqlSelect
