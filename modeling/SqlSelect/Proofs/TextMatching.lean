import SqlSelect.Compiler.Compilation
import SqlSelect.Query.Builder
import Mathlib.Data.List.Infix

/-!
# What the patterns of text conditions match

A text condition is written as LIKE with a pattern made from its value. In a pattern `%` stands for
any sequence, `_` for any one character and every other character for itself. `Like` says when a
subject is made up of what the characters of a pattern stand for; `likeMatch` finds out by trying
every tail after a `%`.

The value is put into the pattern as it is. So every subject that has the value where the condition
asks for it is matched, but the wildcards of a value stay wildcards, and there are further subjects
as soon as the value has one.
-/

namespace SqlSelect

/-! ## Patterns -/

/-- The part of a subject for which a character of a pattern may stand. -/
def LikeUnit (x : Char) (part : List Char) : Prop :=
  if x = '%' then True else if x = '_' then part.length = 1 else part = [x]

/-- The subject is made up, in order, of what the characters of the pattern stand for. -/
inductive Like : List Char → List Char → Prop
  | nil : Like [] []
  | cons {x : Char} {pattern part subject : List Char} :
      LikeUnit x part → Like pattern subject → Like (x :: pattern) (part ++ subject)

/-- Matches a subject, trying every tail of it after a `%`. -/
def likeMatch : List Char → List Char → Bool
  | [], subject => subject.isEmpty
  | x :: pattern, subject =>
    if x = '%' then subject.tails.any (likeMatch pattern)
    else subject.head?.any (fun c => x == '_' || x == c) && likeMatch pattern subject.tail

theorem like_nil_iff {subject : List Char} : Like [] subject ↔ subject = [] := by
  constructor
  · rintro ⟨⟩
    rfl
  · rintro rfl
    exact .nil

theorem like_cons_iff {x : Char} {pattern subject : List Char} :
    Like (x :: pattern) subject ↔
      ∃ part rest, subject = part ++ rest ∧ LikeUnit x part ∧ Like pattern rest := by
  constructor
  · rintro (_ | ⟨hpart, hrest⟩)
    exact ⟨_, _, rfl, hpart, hrest⟩
  · rintro ⟨part, rest, rfl, hpart, hrest⟩
    exact .cons hpart hrest

theorem like_percent_iff {pattern subject : List Char} :
    Like ('%' :: pattern) subject ↔
      ∃ before rest, subject = before ++ rest ∧ Like pattern rest := by
  simp [like_cons_iff, LikeUnit]

/-- A character other than `%` stands for one character. -/
theorem like_single_iff {x : Char} (hx : x ≠ '%') {pattern subject : List Char} :
    Like (x :: pattern) subject ↔
      ∃ c rest, subject = c :: rest ∧ (x = '_' ∨ x = c) ∧ Like pattern rest := by
  rw [like_cons_iff]
  constructor
  · rintro ⟨part, rest, rfl, hpart, hrest⟩
    rw [LikeUnit, if_neg hx] at hpart
    split at hpart
    · obtain ⟨c, rfl⟩ := List.length_eq_one_iff.mp hpart
      exact ⟨c, rest, rfl, Or.inl ‹_›, hrest⟩
    · subst hpart
      exact ⟨x, rest, rfl, Or.inr rfl, hrest⟩
  · rintro ⟨c, rest, rfl, hc, hrest⟩
    refine ⟨[c], rest, rfl, ?_, hrest⟩
    rw [LikeUnit, if_neg hx]
    split
    · rfl
    · rw [hc.resolve_left ‹_›]

/-- The matcher finds a way to make up the subject exactly when there is one. -/
theorem likeMatch_iff (pattern subject : List Char) :
    likeMatch pattern subject = true ↔ Like pattern subject := by
  induction pattern generalizing subject with
  | nil => rw [likeMatch, List.isEmpty_iff, like_nil_iff]
  | cons x pattern ih =>
    rw [likeMatch]
    by_cases hx : x = '%'
    · subst hx
      simp only [if_true, List.any_eq_true, List.mem_tails, ih, like_percent_iff]
      constructor
      · rintro ⟨rest, ⟨before, rfl⟩, hrest⟩
        exact ⟨before, rest, rfl, hrest⟩
      · rintro ⟨before, rest, rfl, hrest⟩
        exact ⟨rest, ⟨before, rfl⟩, hrest⟩
    · rw [if_neg hx, like_single_iff hx]
      cases subject with
      | nil => simp
      | cons c subject => simp [ih]

instance (pattern subject : List Char) : Decidable (Like pattern subject) :=
  decidable_of_iff _ (likeMatch_iff pattern subject)

/-- Patterns one after the other match subjects one after the other. -/
theorem like_append_iff {pattern pattern' subject : List Char} :
    Like (pattern ++ pattern') subject ↔
      ∃ front rest, subject = front ++ rest ∧ Like pattern front ∧ Like pattern' rest := by
  induction pattern generalizing subject with
  | nil => simp [like_nil_iff]
  | cons x pattern ih =>
    rw [List.cons_append, like_cons_iff]
    constructor
    · rintro ⟨part, tail, rfl, hpart, htail⟩
      obtain ⟨front, rest, rfl, hfront, hrest⟩ := ih.mp htail
      exact ⟨part ++ front, rest, (List.append_assoc ..).symm, .cons hpart hfront, hrest⟩
    · rintro ⟨front, rest, rfl, hfront, hrest⟩
      obtain ⟨part, front, rfl, hpart, hfront⟩ := like_cons_iff.mp hfront
      exact ⟨part, front ++ rest, List.append_assoc .., hpart, ih.mpr ⟨_, _, rfl, hfront, hrest⟩⟩

/-! ## Values inside patterns -/

/-- The characters that stand for something else in a pattern. -/
def isWildcard (c : Char) : Bool :=
  c == '%' || c == '_'

/-- As a pattern, every text matches itself. -/
theorem like_self (value : List Char) : Like value value := by
  induction value with
  | nil => exact .nil
  | cons c value ih =>
    have hunit : LikeUnit c [c] := by simp [LikeUnit]
    exact .cons hunit ih

theorem like_literal_iff {value subject : List Char} (h : ∀ c ∈ value, isWildcard c = false) :
    Like value subject ↔ subject = value := by
  induction value generalizing subject with
  | nil => exact like_nil_iff
  | cons c value ih =>
    obtain ⟨hc, hvalue⟩ := List.forall_mem_cons.mp h
    simp only [isWildcard, Bool.or_eq_false_iff, beq_eq_false_iff_ne] at hc
    rw [like_single_iff hc.1]
    constructor
    · rintro ⟨d, rest, rfl, hd, hrest⟩
      rw [hd.resolve_left hc.2, (ih hvalue).mp hrest]
    · rintro rfl
      exact ⟨c, value, rfl, Or.inr rfl, like_self value⟩

/-- A subject that matches the value as a pattern and has no wildcards itself: a `%` is left out,
and a letter takes the place of a `_`. -/
def likeExample (value : List Char) : List Char :=
  (value.filter (· != '%')).map fun c => if c = '_' then 'a' else c

theorem like_likeExample (value : List Char) : Like value (likeExample value) := by
  induction value with
  | nil => exact .nil
  | cons c value ih =>
    by_cases hpercent : c = '%'
    · rw [hpercent]
      exact like_percent_iff.mpr ⟨[], likeExample value, rfl, ih⟩
    · have hcons : likeExample (c :: value) =
          (if c = '_' then 'a' else c) :: likeExample value := by
        simp [likeExample, hpercent]
      rw [hcons]
      refine (like_single_iff hpercent).mpr ⟨_, _, rfl, ?_, ih⟩
      split
      · exact Or.inl ‹_›
      · exact Or.inr rfl

theorem isWildcard_of_mem_likeExample {value : List Char} {c : Char} (h : c ∈ likeExample value) :
    isWildcard c = false := by
  simp only [likeExample, List.mem_map, List.mem_filter, bne_iff_ne] at h
  obtain ⟨d, ⟨_, hpercent⟩, rfl⟩ := h
  split
  · decide
  · rename_i hunderscore
    simp [isWildcard, hpercent, hunderscore]

/-! ## Text conditions -/

namespace TextMatch

/-- What a text condition says of a subject: the value is a pattern for it, stands at its beginning,
stands at its end, or occurs in it. -/
def Holds (kind : TextMatch) (value subject : String) : Prop :=
  match kind with
  | .like => Like value.toList subject.toList
  | .startsWith => value.toList <+: subject.toList
  | .endsWith => value.toList <:+ subject.toList
  | .contains => value.toList <:+: subject.toList

/-- What may stand before the value and after it. -/
def Surrounds : TextMatch → List Char → List Char → Prop
  | .like, before, after => before = [] ∧ after = []
  | .startsWith, before, _ => before = []
  | .endsWith, _, after => after = []
  | .contains, _, _ => True

/-- The value in the pattern of a condition is itself a pattern, for a part of the subject. -/
theorem like_pattern_iff (kind : TextMatch) (value : String) (subject : List Char) :
    Like (kind.pattern value).toList subject ↔ ∃ before part after,
      subject = before ++ part ++ after ∧ Like value.toList part ∧ kind.Surrounds before after := by
  have hany : ∀ after, Like "%".toList after := fun after =>
    like_percent_iff.mpr ⟨after, [], by simp, .nil⟩
  have hpercent : "%".toList = ['%'] := rfl
  cases kind with
  | like =>
    constructor
    · intro h
      exact ⟨[], subject, [], by simp, h, rfl, rfl⟩
    · rintro ⟨_, part, _, rfl, hpart, rfl, rfl⟩
      simpa [pattern] using hpart
  | startsWith =>
    rw [pattern, String.toList_append, like_append_iff]
    constructor
    · rintro ⟨part, after, rfl, hpart, _⟩
      exact ⟨[], part, after, rfl, hpart, rfl⟩
    · rintro ⟨_, part, after, rfl, hpart, rfl⟩
      exact ⟨part, after, rfl, hpart, hany after⟩
  | endsWith =>
    rw [pattern, String.toList_append, hpercent, List.singleton_append, like_percent_iff]
    constructor
    · rintro ⟨before, part, rfl, hpart⟩
      exact ⟨before, part, [], by simp, hpart, rfl⟩
    · rintro ⟨before, part, _, rfl, hpart, rfl⟩
      exact ⟨before, part, List.append_nil _, hpart⟩
  | contains =>
    rw [pattern, String.toList_append, String.toList_append, like_append_iff]
    constructor
    · rintro ⟨front, after, rfl, hfront, _⟩
      obtain ⟨before, part, rfl, hpart⟩ := like_percent_iff.mp hfront
      exact ⟨before, part, after, rfl, hpart, trivial⟩
    · rintro ⟨before, part, after, rfl, hpart, _⟩
      exact ⟨before ++ part, after, rfl, like_percent_iff.mpr ⟨_, _, rfl, hpart⟩, hany after⟩

theorem holds_iff {kind : TextMatch} (h : kind ≠ .like) (value subject : String) :
    kind.Holds value subject ↔ ∃ before after,
      subject.toList = before ++ value.toList ++ after ∧ kind.Surrounds before after := by
  cases kind with
  | like => exact absurd rfl h
  | startsWith =>
    constructor
    · rintro ⟨after, hafter⟩
      exact ⟨[], after, hafter.symm, rfl⟩
    · rintro ⟨_, after, hafter, rfl⟩
      exact ⟨after, hafter.symm⟩
  | endsWith =>
    constructor
    · rintro ⟨before, hbefore⟩
      exact ⟨before, [], by rw [List.append_nil, hbefore], rfl⟩
    · rintro ⟨before, _, hbefore, rfl⟩
      exact ⟨before, by rw [hbefore, List.append_nil]⟩
  | contains =>
    constructor
    · rintro ⟨before, after, hsubject⟩
      exact ⟨before, after, hsubject.symm, trivial⟩
    · rintro ⟨before, after, hsubject, _⟩
      exact ⟨before, after, hsubject.symm⟩

/-- What a condition says of a subject is never missed. -/
theorem Holds.like_pattern {kind : TextMatch} {value subject : String}
    (h : kind.Holds value subject) : Like (kind.pattern value).toList subject.toList := by
  by_cases hkind : kind = .like
  · subst hkind
    exact h
  · obtain ⟨before, after, hsubject, hsurrounds⟩ := (holds_iff hkind value subject).mp h
    rw [like_pattern_iff]
    exact ⟨before, value.toList, after, hsubject, like_self _, hsurrounds⟩

theorem holds_of_literal {kind : TextMatch} {value subject : String}
    (hvalue : ∀ c ∈ value.toList, isWildcard c = false)
    (h : Like (kind.pattern value).toList subject.toList) : kind.Holds value subject := by
  by_cases hkind : kind = .like
  · subst hkind
    exact h
  · obtain ⟨before, part, after, hsubject, hpart, hsurrounds⟩ :=
      (like_pattern_iff kind value subject.toList).mp h
    rw [(like_literal_iff hvalue).mp hpart] at hsubject
    exact (holds_iff hkind value subject).mpr ⟨before, after, hsubject, hsurrounds⟩

end TextMatch

/-- The pattern of a text condition matches every subject of which the condition holds. It matches
no others exactly when the value has no wildcards, or is meant as a pattern. -/
theorem text_match_exact_iff (kind : TextMatch) (value : String) :
    (∀ subject : String, kind.Holds value subject →
      Like (kind.pattern value).toList subject.toList) ∧
    ((∀ subject : String, Like (kind.pattern value).toList subject.toList ↔
        kind.Holds value subject) ↔
      kind = .like ∨ ∀ c ∈ value.toList, isWildcard c = false) := by
  refine ⟨fun subject => TextMatch.Holds.like_pattern, ?_, ?_⟩
  · intro hexact
    by_cases hkind : kind = .like
    · exact Or.inl hkind
    · right
      -- the value occurs in its example, which has no wildcards
      have hmatch : Like (kind.pattern value).toList (likeExample value.toList) :=
        (kind.like_pattern_iff value _).mpr
          ⟨[], _, [], by simp, like_likeExample _, by cases kind <;> simp [TextMatch.Surrounds]⟩
      have hholds := (hexact (String.ofList (likeExample value.toList))).mp
        (by rwa [String.toList_ofList])
      obtain ⟨before, after, hsubject, _⟩ := (TextMatch.holds_iff hkind _ _).mp hholds
      rw [String.toList_ofList] at hsubject
      intro c hc
      have hmem : c ∈ likeExample value.toList := by
        rw [hsubject]
        exact List.mem_append_left _ (List.mem_append_right _ hc)
      exact isWildcard_of_mem_likeExample hmem
  · rintro (rfl | hvalue) subject
    · exact Iff.rfl
    · exact ⟨TextMatch.holds_of_literal hvalue, TextMatch.Holds.like_pattern⟩

/-- A value with a dot is matched as it is, and one with a percent sign is not. -/
theorem text_match_exact_iff_sample :
    TextMatch.contains.Holds "b.c" "ab.cd" ∧ Like "%b.c%".toList "ab.cd".toList ∧
    (∀ subject : String, Like "%b.c%".toList subject.toList ↔
      TextMatch.contains.Holds "b.c" subject) ∧
    ¬∀ subject : String, Like "%5%".toList subject.toList ↔
      TextMatch.endsWith.Holds "5%" subject := by
  have hholds : TextMatch.contains.Holds "b.c" "ab.cd" := ⟨['a'], ['d'], rfl⟩
  obtain ⟨hfound, hexact⟩ := text_match_exact_iff .contains "b.c"
  refine ⟨hholds, hfound "ab.cd" hholds, hexact.mpr (Or.inr (by simp [isWildcard])), fun h => ?_⟩
  have hwild := (text_match_exact_iff .endsWith "5%").2.mp h
  simp [isWildcard] at hwild

/-- A condition on the beginning `a_` binds a pattern for all texts that begin with `a` and have one
more character. -/
theorem text_match_wildcard_value :
    (∃ r, (Compiler.compile {} ((Query.empty.fromTable "t").whereCondition
        (.ofPredicate (.text "name" .startsWith "a_" true)))).outcome = .ok r ∧
      r.sql = "SELECT * FROM t WHERE name LIKE ?" ∧
      (r.bindings[0]?.bind Value.text?) = some "a_%") ∧
    Like "a_%".toList "ab".toList ∧ ¬TextMatch.startsWith.Holds "a_" "ab" := by
  refine ⟨⟨_, rfl, by decide +kernel, rfl⟩, by decide, ?_⟩
  rintro ⟨after, hafter⟩
  cases hafter

end SqlSelect
