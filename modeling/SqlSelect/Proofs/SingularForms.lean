import SqlSelect.Expansion
import Mathlib.Data.List.Basic

/-!
# Singular forms are stable

Taking the singular twice is taking it once. Every rule leaves a word that no rule changes again: an
ending that is put in or laid bare is no plural's, and neither list of exceptions has a word with
such an ending. Only the last rule, which drops a single `s`, can lay bare an irregular plural,
so `peoples` becomes `people` and then `person`; these words are the exceptions to stability.

All rules compare words in small letters, so the case of a word plays no part in the argument.
-/

namespace SqlSelect

namespace Inflection

/-- A word in small letters. -/
def lowered (word : List Char) : List Char :=
  word.map Char.toLower

/-! ## Endings -/

theorem endsIn_iff {ending : String} {lower : List Char} :
    endsIn ending lower = true ↔ ending.toList <:+ lower :=
  List.isSuffixOf_iff_suffix

theorem endsIn_trans {ending shorter : String} {lower : List Char}
    (h : endsIn ending lower = true) (hshorter : endsIn shorter ending.toList = true) :
    endsIn shorter lower = true :=
  endsIn_iff.mpr ((endsIn_iff.mp hshorter).trans (endsIn_iff.mp h))

/-- Of two endings of one word the longer one ends in the shorter one. -/
theorem endsIn_of_endsIn {ending shorter : String} {lower : List Char}
    (h : endsIn ending lower = true) (hshorter : endsIn shorter lower = true)
    (hlength : shorter.toList.length ≤ ending.toList.length) :
    endsIn shorter ending.toList = true :=
  endsIn_iff.mpr
    (List.suffix_of_suffix_length_le (endsIn_iff.mp hshorter) (endsIn_iff.mp h) hlength)

theorem lowered_dropEnd (n : Nat) (word : List Char) :
    lowered (dropEnd n word) = dropEnd n (lowered word) := by
  simp [lowered, dropEnd, List.map_take]

theorem dropEnd_append (front back : List Char) : dropEnd back.length (front ++ back) = front := by
  simp [dropEnd]

/-- Dropping the end of an ending lays bare the rest of the ending. -/
theorem endsIn_dropEnd {stem tail : String} {lower : List Char}
    (h : endsIn (stem ++ tail) lower = true) :
    endsIn stem (dropEnd tail.toList.length lower) = true := by
  obtain ⟨front, rfl⟩ := endsIn_iff.mp h
  rw [String.toList_append, ← List.append_assoc, dropEnd_append]
  exact endsIn_iff.mpr (List.suffix_append _ _)

/-! ## Words that no rule changes -/

/-- The endings of plurals that have a rule of their own. -/
def pluralEndings : List String :=
  ["ies", "ves", "sses", "shes", "ches", "xes", "zes"]

/-- A word in small letters that is no irregular plural and whose ending is not that of a plural. -/
structure Settled (lower : List Char) : Prop where
  lookup_eq : irregular.lookup (String.ofList lower) = none
  ending : endsIn "s" lower = false ∨ ∃ ending ∈ ["ss", "us", "is"], endsIn ending lower = true

theorem Settled.not_plural {lower : List Char} (h : Settled lower) :
    ∀ ending ∈ pluralEndings, endsIn ending lower = false := by
  intro ending hending
  by_contra hplural
  rw [Bool.not_eq_false] at hplural
  rcases h.ending with hs | ⟨kept, hkept, hends⟩
  · have hall : ∀ ending ∈ pluralEndings, endsIn "s" ending.toList = true := by decide
    rw [endsIn_trans hplural (hall ending hending)] at hs
    cases hs
  · have hall : ∀ ending ∈ pluralEndings, ∀ kept ∈ ["ss", "us", "is"],
        kept.toList.length ≤ ending.toList.length ∧ endsIn kept ending.toList = false := by decide
    obtain ⟨hlength, hnot⟩ := hall ending hending kept hkept
    rw [endsIn_of_endsIn hplural hends hlength] at hnot
    cases hnot

theorem regular_eq (word : List Char) :
    regular word =
      if endsIn "ies" (lowered word) && 3 < word.length then
        dropEnd 3 word ++ [if isCapitals word then 'Y' else 'y']
      else if endsIn "ves" (lowered word) && 3 < word.length then
        dropEnd 3 word ++ [if isCapitals word then 'F' else 'f']
      else if ["sses", "shes", "ches", "xes", "zes"].any (endsIn · (lowered word)) then
        dropEnd 2 word
      else if ["ss", "us", "is"].any (endsIn · (lowered word)) then word
      else if endsIn "s" (lowered word) && 1 < word.length then dropEnd 1 word
      else word :=
  rfl

theorem regular_of_settled {word : List Char} (h : Settled (lowered word)) :
    regular word = word := by
  have hplural := h.not_plural
  simp only [pluralEndings, List.forall_mem_cons] at hplural
  obtain ⟨hies, hves, hsses, hshes, hches, hxes, hzes, -⟩ := hplural
  simp only [regular_eq, hies, hves, hsses, hshes, hches, hxes, hzes, Bool.false_and,
    Bool.false_eq_true, if_false, List.any_cons, List.any_nil, Bool.or_false]
  rcases h.ending with hs | ⟨kept, hkept, hends⟩
  · simp [hs]
  · simp only [List.mem_cons, List.not_mem_nil, or_false] at hkept
    rcases hkept with rfl | rfl | rfl <;> simp [hends]

theorem singularChars_of_settled {word : List Char} (h : Settled (lowered word)) :
    singularChars word = word := by
  have hlookup := h.lookup_eq
  rw [lowered] at hlookup
  rw [singularChars, hlookup]
  simp only [regular_of_settled h, ite_self]

/-- The endings that the rules put in or lay bare. -/
def singularEndings : List String :=
  ["y", "f", "ss", "sh", "ch", "x", "z"]

theorem mem_of_lookup {lower : List Char} {singular : String}
    (h : irregular.lookup (String.ofList lower) = some singular) :
    (String.ofList lower, singular) ∈ irregular := by
  obtain ⟨before, after, hsplit, -⟩ := List.lookup_eq_some_iff.mp h
  simp [hsplit]

/-- No listed word has an ending that the rules make. -/
theorem settled_of_singularEnding {lower : List Char} {ending : String}
    (hending : ending ∈ singularEndings) (h : endsIn ending lower = true) : Settled lower := by
  constructor
  · cases hlookup : irregular.lookup (String.ofList lower) with
    | none => rfl
    | some singular =>
      have hall : ∀ ending ∈ singularEndings, ∀ p ∈ irregular,
          endsIn ending p.1.toList = false := by decide
      have hnot := hall ending hending _ (mem_of_lookup hlookup)
      rw [String.toList_ofList, h] at hnot
      cases hnot
  · by_cases hss : ending = "ss"
    · exact Or.inr ⟨"ss", by decide, hss ▸ h⟩
    · left
      have hall : ∀ ending ∈ singularEndings, ending ≠ "ss" →
          "s".toList.length ≤ ending.toList.length ∧ endsIn "s" ending.toList = false := by decide
      obtain ⟨hlength, hnot⟩ := hall ending hending hss
      by_contra hs
      rw [Bool.not_eq_false] at hs
      rw [endsIn_of_endsIn h hs hlength] at hnot
      cases hnot

/-! ## What the rules make of a word -/

/-- A letter that is put at the end is the ending, whatever its case. -/
theorem endsIn_lowered_put (front : List Char) (capitals : Bool) {upper small : Char}
    {ending : String} (hupper : upper.toLower = small) (hsmall : small.toLower = small)
    (hending : ending.toList = [small]) :
    endsIn ending (lowered (front ++ [if capitals then upper else small])) = true := by
  rw [endsIn_iff, lowered, List.map_append, hending]
  cases capitals <;> simp [hupper, hsmall]

/-- An `s` that is dropped leaves no `s` at the end unless the word ended in `ss`. -/
theorem dropEnd_one {word : List Char} (hlong : 1 < word.length)
    (hs : endsIn "s" (lowered word) = true) (hss : ¬endsIn "ss" (lowered word) = true) :
    dropEnd 1 word ≠ [] ∧ lowered word = lowered (dropEnd 1 word) ++ ['s'] ∧
      endsIn "s" (lowered (dropEnd 1 word)) = false := by
  obtain ⟨front, hfront⟩ := endsIn_iff.mp hs
  have hdrop : lowered (dropEnd 1 word) = front := by
    rw [lowered_dropEnd, ← hfront]
    exact dropEnd_append front ['s']
  refine ⟨?_, by rw [hdrop, ← hfront]; rfl, ?_⟩
  · intro hnil
    have hlength := congrArg List.length hnil
    simp only [dropEnd, List.length_take, List.length_nil] at hlength
    omega
  · rw [hdrop]
    by_contra hfrontS
    rw [Bool.not_eq_false] at hfrontS
    obtain ⟨rest, rfl⟩ := endsIn_iff.mp hfrontS
    refine hss (endsIn_iff.mpr ⟨rest, ?_⟩)
    rw [← hfront, List.append_assoc]
    rfl

/-- A regular plural keeps its form, or gets an ending that no plural has, or loses the `s` of an
ending that is not `ss`. -/
theorem regular_cases (word : List Char) :
    regular word = word ∨
    (∃ ending ∈ singularEndings, endsIn ending (lowered (regular word)) = true) ∨
    (regular word ≠ [] ∧ lowered word = lowered (regular word) ++ ['s'] ∧
      endsIn "s" (lowered (regular word)) = false) := by
  generalize hresult : regular word = result
  rw [regular_eq] at hresult
  split at hresult
  · subst hresult
    exact Or.inr (Or.inl ⟨"y", by decide, endsIn_lowered_put _ _ rfl rfl rfl⟩)
  split at hresult
  · subst hresult
    exact Or.inr (Or.inl ⟨"f", by decide, endsIn_lowered_put _ _ rfl rfl rfl⟩)
  split at hresult
  · rename_i hany
    obtain ⟨plural, hplural, hends⟩ := List.any_eq_true.mp hany
    have hall : ∀ plural ∈ ["sses", "shes", "ches", "xes", "zes"],
        ∃ stem ∈ singularEndings, plural = stem ++ "es" := by decide
    obtain ⟨stem, hstem, rfl⟩ := hall plural hplural
    refine Or.inr (Or.inl ⟨stem, hstem, ?_⟩)
    rw [← hresult, lowered_dropEnd]
    exact endsIn_dropEnd hends
  split at hresult
  · exact Or.inl hresult.symm
  split at hresult
  · rename_i hkept hs
    rw [Bool.and_eq_true, decide_eq_true_eq] at hs
    have hss : ¬endsIn "ss" (lowered word) = true :=
      fun h => hkept (List.any_eq_true.mpr ⟨"ss", by decide, h⟩)
    subst hresult
    exact Or.inr (Or.inr (dropEnd_one hs.2 hs.1 hss))
  · exact Or.inl hresult.symm

/-- The case of a replacement is a matter of capitals only. -/
theorem lowered_matchCase (word : List Char) {replacement : List Char}
    (h : replacement.all (fun c => c.toLower == c && c.toUpper.toLower == c) = true) :
    lowered (matchCase word replacement) = replacement := by
  have hsmall : ∀ c ∈ replacement, c.toLower = c ∧ c.toUpper.toLower = c := by
    intro c hc
    simpa using List.all_eq_true.mp h c hc
  have hkept : lowered replacement = replacement :=
    (List.map_congr_left fun c hc => (hsmall c hc).1).trans (List.map_id' _)
  unfold matchCase
  split
  · rw [lowered, List.map_map]
    exact (List.map_congr_left fun c hc => (hsmall c hc).2).trans (List.map_id' _)
  split
  · rename_i first _ r rest
    rw [List.forall_mem_cons] at hsmall
    split
    · rw [lowered, List.map_cons, hsmall.1.2]
      rw [lowered, List.map_cons, hsmall.1.1] at hkept
      exact hkept
    · exact hkept
  · exact hkept

/-- A word in small letters that is an irregular plural with a regular ending after it. -/
def IsDoublePlural (lower : List Char) : Prop :=
  ∃ p ∈ irregular, lower = p.1.toList ++ ['s']

/-- Each irregular plural is listed for one singular, in small letters, that no rule changes. -/
theorem irregular_entry {p : String × String} (hp : p ∈ irregular) :
    uncountable.contains p.1 = false ∧ irregular.lookup p.1 = some p.2 ∧ p.2 ≠ p.1 ∧
    p.2.toList.all (fun c => c.toLower == c && c.toUpper.toLower == c) = true ∧
    irregular.lookup p.2 = none ∧ endsIn "s" p.2.toList = false ∧ p.2 ≠ "" := by
  have hall : ∀ p ∈ irregular, uncountable.contains p.1 = false ∧
      irregular.lookup p.1 = some p.2 ∧ p.2 ≠ p.1 ∧
      p.2.toList.all (fun c => c.toLower == c && c.toUpper.toLower == c) = true ∧
      irregular.lookup p.2 = none ∧ endsIn "s" p.2.toList = false ∧ p.2 ≠ "" := by decide
  exact hall p hp

theorem lowered_matchCase_of_mem {p : String × String} (hp : p ∈ irregular) (word : List Char) :
    lowered (matchCase word p.2.toList) = p.2.toList := by
  obtain ⟨-, -, -, hsmall, -⟩ := irregular_entry hp
  exact lowered_matchCase word hsmall

theorem settled_of_mem {p : String × String} (hp : p ∈ irregular) : Settled p.2.toList := by
  obtain ⟨-, -, -, -, hlookup, hs, -⟩ := irregular_entry hp
  exact ⟨by rwa [String.ofList_toList], Or.inl hs⟩

theorem singularChars_of_lookup_none {word : List Char}
    (hlisted : uncountable.contains (String.ofList (lowered word)) = false)
    (hlookup : irregular.lookup (String.ofList (lowered word)) = none) :
    singularChars word = regular word := by
  rw [lowered] at hlisted hlookup
  simp only [singularChars, hlisted, hlookup, Bool.false_eq_true, if_false]

theorem singularChars_of_mem {p : String × String} (hp : p ∈ irregular) {word : List Char}
    (h : lowered word = p.1.toList) : singularChars word = matchCase word p.2.toList := by
  obtain ⟨hlisted, hlookup, -⟩ := irregular_entry hp
  rw [lowered] at h
  simp only [singularChars, h, String.ofList_toList, hlisted, hlookup, Bool.false_eq_true, if_false]

/-- A word is its own singular, or its singular is settled, or the word is a double plural. -/
theorem singularChars_cases (word : List Char) :
    singularChars word = word ∨
    (singularChars word ≠ [] ∧
      (Settled (lowered (singularChars word)) ∨ IsDoublePlural (lowered word))) := by
  cases hlisted : uncountable.contains (String.ofList (lowered word)) with
  | true =>
    rw [lowered] at hlisted
    exact Or.inl (by simp only [singularChars, hlisted, if_true])
  | false =>
    cases hlookup : irregular.lookup (String.ofList (lowered word)) with
    | some singular =>
      have hmem := mem_of_lookup hlookup
      have hlowered := lowered_matchCase_of_mem hmem word
      obtain ⟨-, -, -, -, -, -, hne⟩ := irregular_entry hmem
      rw [singularChars_of_mem hmem (String.toList_ofList).symm]
      refine Or.inr ⟨?_, Or.inl (hlowered.symm ▸ settled_of_mem hmem)⟩
      intro hnil
      rw [hnil] at hlowered
      exact hne (String.toList_eq_nil_iff.mp hlowered.symm)
    | none =>
      rw [singularChars_of_lookup_none hlisted hlookup]
      rcases regular_cases word with hsame | ⟨ending, hending, hends⟩ | ⟨hne, hdropped, hs⟩
      · exact Or.inl hsame
      · refine Or.inr ⟨?_, Or.inl (settled_of_singularEnding hending hends)⟩
        intro hnil
        have hall : ∀ ending ∈ singularEndings, endsIn ending (lowered []) = false := by decide
        rw [hnil, hall ending hending] at hends
        cases hends
      · refine Or.inr ⟨hne, ?_⟩
        cases hplural : irregular.lookup (String.ofList (lowered (regular word))) with
        | none => exact Or.inl ⟨hplural, Or.inl hs⟩
        | some singular =>
          refine Or.inr ⟨_, mem_of_lookup hplural, ?_⟩
          rw [String.toList_ofList]
          exact hdropped

/-- The singular of a double plural is an irregular plural. -/
theorem lowered_singularChars_of_isDoublePlural {word : List Char} {p : String × String}
    (hp : p ∈ irregular) (h : lowered word = p.1.toList ++ ['s']) :
    lowered (singularChars word) = p.1.toList := by
  have hall : ∀ p ∈ irregular,
      uncountable.contains (String.ofList (p.1.toList ++ ['s'])) = false ∧
      irregular.lookup (String.ofList (p.1.toList ++ ['s'])) = none ∧
      (pluralEndings ++ ["ss", "us", "is"]).all
        (fun ending => !endsIn ending (p.1.toList ++ ['s'])) = true ∧
      endsIn "s" (p.1.toList ++ ['s']) = true ∧ p.1.toList.length ≠ 0 := by decide
  obtain ⟨hlisted, hlookup, hendings, hs, hlength⟩ := hall p hp
  rw [← h] at hlisted hlookup hendings hs
  have hlong : 1 < word.length := by
    have hlengths := congrArg List.length h
    simp only [lowered, List.length_map, List.length_append, List.length_singleton] at hlengths
    omega
  have hregular : regular word = dropEnd 1 word := by
    simp only [pluralEndings, List.cons_append, List.nil_append, List.all_cons, List.all_nil,
      Bool.and_true, Bool.and_eq_true, Bool.not_eq_true'] at hendings
    obtain ⟨hies, hves, hsses, hshes, hches, hxes, hzes, hss, hus, his⟩ := hendings
    simp [regular_eq, hies, hves, hsses, hshes, hches, hxes, hzes, hss, hus, his, hs, hlong]
  rw [singularChars_of_lookup_none hlisted hlookup, hregular, lowered_dropEnd, h]
  exact dropEnd_append _ ['s']

/-- Taking the singular again changes nothing, except for double plurals. -/
theorem singularChars_singularChars_iff (word : List Char) :
    singularChars (singularChars word) = singularChars word ↔ ¬IsDoublePlural (lowered word) := by
  constructor
  · rintro hsame ⟨p, hp, hdouble⟩
    have hplural := lowered_singularChars_of_isDoublePlural hp hdouble
    obtain ⟨-, -, hne, -⟩ := irregular_entry hp
    rw [singularChars_of_mem hp hplural] at hsame
    rw [← hsame, lowered_matchCase_of_mem hp] at hplural
    exact hne (String.toList_inj.mp hplural)
  · intro hdouble
    rcases singularChars_cases word with hsame | ⟨-, hsettled | hexcept⟩
    · rw [hsame, hsame]
    · exact singularChars_of_settled hsettled
    · exact absurd hexcept hdouble

theorem singularChars_eq_nil_iff (word : List Char) : singularChars word = [] ↔ word = [] := by
  constructor
  · intro hnil
    rcases singularChars_cases word with hsame | ⟨hne, -⟩
    · rwa [hsame] at hnil
    · exact absurd hnil hne
  · rintro rfl
    decide

theorem singular_singular_iff (word : String) :
    singular (singular word) = singular word ↔ ¬IsDoublePlural (lowered word.toList) := by
  rw [← singularChars_singularChars_iff, singular, singular, String.toList_ofList,
    String.ofList_inj]

end Inflection

open Inflection in
/-- Taking the singular of a singular changes nothing, so a relation has the same keys under its
singular and its plural name. The exceptions are exactly the irregular plurals with an `s` put after
them. Only the empty word has an empty singular. -/
theorem singular_stable (word : String) :
    (singular (singular word) = singular word ↔
      ¬∃ p ∈ irregular, word.toLower = p.1 ++ "s") ∧
    (singular word = "" ↔ word = "") ∧
    ∀ (x : Expander) (d : DeepJoin), x.singular = singular → d.sourceKey? = none →
      (x.keys d (singular word) = x.keys d word ↔
        ¬∃ p ∈ irregular, word.toLower = p.1 ++ "s") := by
  have hdouble : IsDoublePlural (lowered word.toList) ↔
      ∃ p ∈ irregular, word.toLower = p.1 ++ "s" := by
    have hlower : word.toLower.toList = lowered word.toList := String.toList_map
    simp only [IsDoublePlural, ← String.toList_inj, hlower, String.toList_append]
    rfl
  rw [← hdouble, ← singular_singular_iff]
  refine ⟨Iff.rfl, ?_, ?_⟩
  · rw [singular, ← String.toList_inj, ← String.toList_inj, String.toList_ofList,
      String.toList_empty, singularChars_eq_nil_iff]
  · intro x d hx hd
    simp only [Expander.keys, hd, hx, Prod.mk.injEq, and_true, String.append_left_inj]

open Inflection in
/-- A plural and its singular lead to the same keys, in any case of their letters. -/
theorem singular_stable_sample :
    singular "COMPANIES" = "COMPANY" ∧ singular "" = "" ∧
    Expander.keys {} ⟨"COMPANIES", .inner, none, none, none, none⟩ (singular "COMPANIES") =
      Expander.keys {} ⟨"COMPANIES", .inner, none, none, none, none⟩ "COMPANIES" ∧
    ¬singular (singular "Peoples") = singular "Peoples" := by
  obtain ⟨-, -, hkeys⟩ := singular_stable "COMPANIES"
  obtain ⟨hstable, -⟩ := singular_stable "Peoples"
  obtain ⟨-, hempty, -⟩ := singular_stable ""
  refine ⟨by decide +kernel, hempty.mpr rfl, (hkeys {} _ rfl rfl).mpr ?_, ?_⟩
  · decide +kernel
  · exact fun h => hstable.mp h ⟨("people", "person"), by decide, by decide +kernel⟩

end SqlSelect
