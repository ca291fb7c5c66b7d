import SqlSelect.Proofs.Literal
import Mathlib.Data.List.DropRight

/-!
# Trimmed texts

What is left of a text without its blanks: it does not matter which end is trimmed first, trimming
twice is trimming once, and a text that is not blank has something at both ends once it is trimmed.
-/

namespace SqlSelect.Text

theorem trimRight_cons (c : Char) (cs : List Char) :
    trimRight (c :: cs) =
      if isBlank c = true ∧ trimRight cs = [] then [] else c :: trimRight cs := by
  rw [trimRight]
  split
  · rename_i h
    by_cases hc : isBlank c = true <;> simp [h, hc]
  · rename_i h
    rw [if_neg fun hnil => h hnil.2]

theorem trimRight_prefix (cs : List Char) : trimRight cs <+: cs := by
  induction cs with
  | nil => exact List.prefix_rfl
  | cons c cs ih =>
    rw [trimRight_cons]
    split
    · exact List.nil_prefix
    · exact List.cons_prefix_cons.mpr ⟨rfl, ih⟩

theorem trimRight_trimRight (cs : List Char) : trimRight (trimRight cs) = trimRight cs := by
  induction cs with
  | nil => rfl
  | cons c cs ih =>
    rw [trimRight_cons]
    split
    · rfl
    · rename_i h
      rw [trimRight_cons, ih, if_neg h]

theorem trimRight_append_of_ne_nil {ys : List Char} (h : trimRight ys ≠ []) (xs : List Char) :
    trimRight (xs ++ ys) = xs ++ trimRight ys := by
  induction xs with
  | nil => rfl
  | cons x xs ih => simp [trimRight_cons, ih, h]

/-- The two ends can be trimmed in either order. -/
theorem dropWhile_trimRight (cs : List Char) : (trimRight cs).dropWhile isBlank = trimChars cs := by
  rw [trimChars]
  induction cs with
  | nil => rfl
  | cons c cs ih =>
    rw [trimRight_cons]
    by_cases hc : isBlank c = true
    · rw [List.dropWhile_cons_of_pos hc, ← ih]
      split
      · rename_i h
        rw [h.2]
      · rw [List.dropWhile_cons_of_pos hc]
    · rw [if_neg (fun h => hc h.1), List.dropWhile_cons_of_neg hc, List.dropWhile_cons_of_neg hc,
        trimRight_cons, if_neg (fun h => hc h.1)]

theorem trimChars_cons_of_blank {c : Char} (h : isBlank c = true) (cs : List Char) :
    trimChars (c :: cs) = trimChars cs := by
  rw [trimChars, List.dropWhile_cons_of_pos h, trimChars]

theorem trimChars_ne_nil {c : Char} (h : isBlank c = false) (cs : List Char) :
    trimChars (c :: cs) ≠ [] := by
  rw [trimChars, List.dropWhile_cons_of_neg (by simp [h]), trimRight_cons, if_neg (by simp [h])]
  exact List.cons_ne_nil _ _

theorem trimChars_dropWhile (cs : List Char) :
    trimChars (cs.dropWhile isBlank) = trimChars cs := by
  rw [trimChars, List.dropWhile_idempotent, trimChars]

theorem trimChars_trimRight (cs : List Char) : trimChars (trimRight cs) = trimChars cs := by
  rw [← dropWhile_trimRight, trimRight_trimRight, dropWhile_trimRight]

theorem trimChars_trimChars (cs : List Char) : trimChars (trimChars cs) = trimChars cs := by
  have htwice := trimChars_trimRight (cs.dropWhile isBlank)
  rwa [trimChars_dropWhile] at htwice

theorem trim_trim (text : String) : trim (trim text) = trim text := by
  rw [trim, trim, String.toList_ofList, trimChars_trimChars]

theorem trimRight_ne_nil {cs : List Char} (h : trimChars cs ≠ []) : trimRight cs ≠ [] := by
  intro hnil
  rw [← dropWhile_trimRight, hnil] at h
  exact h rfl

theorem isBlank_head_trimChars {c : Char} {cs rest : List Char} (h : trimChars cs = c :: rest) :
    isBlank c = false := by
  rw [← dropWhile_trimRight] at h
  have hhead := List.head?_dropWhile_not isBlank (trimRight cs)
  rw [h] at hhead
  exact hhead

theorem exists_last_trimRight {cs : List Char} (h : trimRight cs ≠ []) :
    ∃ rest c, trimRight cs = rest ++ [c] ∧ isBlank c = false := by
  induction cs with
  | nil => exact absurd rfl h
  | cons c cs ih =>
    have hkept : ¬ (isBlank c = true ∧ trimRight cs = []) := by
      intro hblank
      rw [trimRight_cons, if_pos hblank] at h
      exact h rfl
    rw [trimRight_cons, if_neg hkept]
    by_cases hcs : trimRight cs = []
    · refine ⟨[], c, by rw [hcs]; rfl, ?_⟩
      exact Bool.eq_false_iff.mpr fun hc => hkept ⟨hc, hcs⟩
    · obtain ⟨rest, last, hlast, hc⟩ := ih hcs
      exact ⟨c :: rest, last, by rw [hlast]; rfl, hc⟩

theorem solid_trimChars {cs : List Char} (h : trimChars cs ≠ []) : Solid (trimChars cs) := by
  constructor
  · obtain ⟨c, rest, hcs⟩ := List.exists_cons_of_ne_nil h
    exact ⟨c, rest, hcs, isBlank_head_trimChars hcs⟩
  · exact exists_last_trimRight h

end SqlSelect.Text
