import SqlSelect.Proofs.References

/-!
# Names decoded

A decoder for wrapped names, character by character: segments with dots between them, each a star, a
bare word or a text in quotes with its doubled quotes undone, and after them the word AS with one
more segment. One decoder serves the dialects that quote every segment and those that leave plain
words bare, and it gives back the parts of every name, so names that are written alike have the same
parts.
-/

namespace SqlSelect.Identifier

open Sql (isWordPart splitDots_ne_nil)

/-! ## The decoder -/

section Decoder

variable (quote : Char)

/-- Reads a text in quotes, after the first quote, up to the one that closes it. -/
def takeQuoted : List Char → Option (List Char × List Char)
  | [] => none
  | c :: cs =>
    if c = quote then
      match cs with
      | [] => some ([], [])
      | d :: rest =>
        if d = quote then (takeQuoted rest).map fun (text, rest) => (quote :: text, rest)
        else some ([], d :: rest)
    else (takeQuoted cs).map fun (text, rest) => (c :: text, rest)

/-- Reads a segment. -/
def takeSegment : List Char → Option (List Char × List Char)
  | [] => none
  | c :: rest =>
    if c = '*' then some (['*'], rest)
    else if c = quote then takeQuoted quote rest
    else if isWordPart c then some (c :: rest.takeWhile isWordPart, rest.dropWhile isWordPart)
    else none

theorem length_takeQuoted {cs text rest : List Char} (h : takeQuoted quote cs = some (text, rest)) :
    rest.length < cs.length := by
  fun_induction takeQuoted quote cs generalizing text rest with
  | case1 => cases h
  | case2 =>
    cases h
    simp
  | case3 cs ih =>
    obtain ⟨p, hp, heq⟩ := Option.map_eq_some_iff.mp h
    cases heq
    have hlt := ih hp
    simp only [List.length_cons]
    omega
  | case4 d cs hd =>
    cases h
    simp
  | case5 c cs hc ih =>
    obtain ⟨p, hp, heq⟩ := Option.map_eq_some_iff.mp h
    cases heq
    exact Nat.lt_succ_of_lt (ih hp)

theorem length_takeSegment {cs text rest : List Char}
    (h : takeSegment quote cs = some (text, rest)) : rest.length < cs.length := by
  unfold takeSegment at h
  split at h
  · cases h
  · rename_i c cs
    split_ifs at h
    · cases h
      simp
    · exact Nat.lt_succ_of_lt (length_takeQuoted quote h)
    · cases h
      exact Nat.lt_succ_of_le (List.dropWhile_sublist _).length_le

/-- Reads segments with dots between them. -/
def takePath (cs : List Char) : Option (List (List Char) × List Char) :=
  match _h : takeSegment quote cs with
  | none => none
  | some (segment, '.' :: rest) =>
    (takePath rest).map fun (path, rest) => (segment :: path, rest)
  | some (segment, rest) => some ([segment], rest)
termination_by cs.length
decreasing_by
  have hlt := length_takeSegment quote _h
  simp only [List.length_cons] at hlt
  omega

/-- Reads labels up to the end, each after the word AS. -/
def takeLabels : List Char → Option (List (List Char))
  | [] => some []
  | ' ' :: 'A' :: 'S' :: ' ' :: cs =>
    match _h : takeSegment quote cs with
    | none => none
    | some (label, rest) => (takeLabels rest).map (label :: ·)
  | _ => none
termination_by cs => cs.length
decreasing_by
  have hlt := length_takeSegment quote _h
  simp only [List.length_cons]
  omega

/-- Reads the segments of a name and all its labels. -/
def readName (text : String) : Option (List String × List String) := do
  let (path, rest) ← takePath quote text.toList
  let labels ← takeLabels quote rest
  return (path.map String.ofList, labels.map String.ofList)

/-- Reads a name with one label at most. -/
def decode (text : String) : Option (List String × Option String) :=
  match readName quote text with
  | some (path, []) => some (path, none)
  | some (path, [label]) => some (path, some label)
  | _ => none

end Decoder

section Steps

variable {quote : Char} {cs segment rest : List Char}

theorem takePath_of_dot (h : takeSegment quote cs = some (segment, '.' :: rest)) :
    takePath quote cs =
      (takePath quote rest).map fun (path, rest) => (segment :: path, rest) := by
  rw [takePath]
  split <;> simp_all

theorem takePath_of_end (h : takeSegment quote cs = some (segment, rest))
    (hrest : rest.head? ≠ some '.') : takePath quote cs = some ([segment], rest) := by
  rw [takePath]
  split
  · simp_all
  · rename_i heq
    cases h.symm.trans heq
    exact absurd rfl hrest
  · simp_all

theorem takeLabels_of_as (h : takeSegment quote cs = some (segment, rest)) :
    takeLabels quote (" AS ".toList ++ cs) = (takeLabels quote rest).map (segment :: ·) := by
  change takeLabels quote (' ' :: 'A' :: 'S' :: ' ' :: cs) = _
  rw [takeLabels]
  split <;> simp_all

end Steps

/-! ## Wrapped segments -/

/-- The text goes on, if at all, with a character that belongs to no segment. -/
def Bounds (quote : Char) (rest : List Char) : Prop :=
  ∀ c ∈ rest.head?, c ≠ quote ∧ isWordPart c = false

/-- A quote that can be told from stars, dots, blanks and words. -/
structure Delimits (quote : Char) : Prop where
  star : quote ≠ '*'
  word : isWordPart quote = false
  dot : '.' ≠ quote ∧ isWordPart '.' = false
  blank : ' ' ≠ quote ∧ isWordPart ' ' = false

theorem Delimits.bounds_dot {quote : Char} (h : Delimits quote) (rest : List Char) :
    Bounds quote ('.' :: rest) := by
  rintro c ⟨⟩
  exact h.dot

theorem Delimits.bounds_blank {quote : Char} (h : Delimits quote) (rest : List Char) :
    Bounds quote (' ' :: rest) := by
  rintro c ⟨⟩
  exact h.blank

theorem takeQuoted_cons_of_ne {quote c : Char} (hc : c ≠ quote) (cs : List Char) :
    takeQuoted quote (c :: cs) =
      (takeQuoted quote cs).map fun (text, rest) => (c :: text, rest) := by
  cases cs <;> simp [takeQuoted, hc]

theorem takeQuoted_doubled {quote : Char} (cs : List Char) {rest : List Char}
    (hrest : rest.head? ≠ some quote) :
    takeQuoted quote ((cs.flatMap fun c => if c = quote then [quote, quote] else [c]) ++
      quote :: rest) = some (cs, rest) := by
  induction cs with
  | nil =>
    cases rest with
    | nil => simp [takeQuoted]
    | cons c rest =>
      have hc : c ≠ quote := fun hc => hrest (congrArg some hc)
      simp [takeQuoted, hc]
  | cons c cs ih =>
    rw [List.flatMap_cons, List.append_assoc]
    by_cases hc : c = quote
    · simp [hc, takeQuoted, ih]
    · simp [hc, takeQuoted_cons_of_ne hc, ih]

theorem takeSegment_enclose {quote : Char} (hq : Delimits quote) (cs : List Char)
    {rest : List Char} (hrest : Bounds quote rest) :
    takeSegment quote (enclose quote cs ++ rest) = some (cs, rest) := by
  simp only [enclose, List.cons_append, List.append_assoc, List.nil_append, takeSegment,
    if_neg hq.star, if_true]
  exact takeQuoted_doubled cs fun hquote => (hrest quote hquote).1 rfl

theorem takeSegment_plain {quote : Char} (hq : Delimits quote) {cs rest : List Char}
    (hcs : isPlain cs = true) (hrest : Bounds quote rest) :
    takeSegment quote (cs ++ rest) = some (cs, rest) := by
  have hall : ∀ c ∈ cs, isWordPart c = true := by
    simp only [isPlain, Bool.and_eq_true, List.all_eq_true] at hcs
    exact hcs.2
  cases cs with
  | nil => cases hcs
  | cons c cs =>
    rw [List.forall_mem_cons] at hall
    have hstar : c ≠ '*' := by
      rintro rfl
      exact absurd hall.1 (by decide +kernel)
    have hquote : c ≠ quote := by
      rintro rfl
      rw [hq.word] at hall
      exact absurd hall.1 (by decide)
    have hnone : rest.takeWhile isWordPart = [] ∧ rest.dropWhile isWordPart = rest := by
      cases rest with
      | nil => exact ⟨rfl, rfl⟩
      | cons d rest => simp [(hrest d rfl).2]
    rw [List.cons_append, takeSegment, if_neg hstar, if_neg hquote, if_pos hall.1,
      List.takeWhile_append_of_pos hall.2, List.dropWhile_append_of_pos hall.2, hnone.1, hnone.2,
      List.append_nil]

/-- A wrapped segment is read to its end. -/
theorem takeSegment_wrapChars {quote? : Option Char} (hq : Delimits (quote?.getD '\x22'))
    (cs : List Char) {rest : List Char} (hrest : Bounds (quote?.getD '\x22') rest) :
    takeSegment (quote?.getD '\x22') (wrapChars quote? cs ++ rest) = some (cs, rest) := by
  unfold wrapChars
  split
  · rename_i hstar
    simp [hstar, takeSegment]
  · cases quote? with
    | some quote => exact takeSegment_enclose hq cs hrest
    | none =>
      dsimp only
      split
      · rename_i hplain
        exact takeSegment_plain hq hplain hrest
      · exact takeSegment_enclose hq cs hrest

theorem delimits_of_mem {quote? : Option Char} (h : quote? ∈ [none, some '\x22', some '\x60']) :
    Delimits (quote?.getD '\x22') := by
  have hsigns : ['\x22', '\x60', '.', ' '].all (fun c => !isWordPart c) = true := by decide +kernel
  simp only [List.all_cons, List.all_nil, Bool.and_eq_true, Bool.not_eq_true', and_true] at hsigns
  obtain ⟨hdouble, hback, hdot, hblank⟩ := hsigns
  simp only [List.mem_cons, List.not_mem_nil, or_false] at h
  rcases h with rfl | rfl | rfl <;> constructor <;> simp [*]

/-! ## Wrapped names -/

/-- Segments with dots between them, and labels after the word AS, all wrapped. -/
def writeName (quote? : Option Char) (path labels : List (List Char)) : String :=
  String.intercalate "." (path.map fun segment => String.ofList (wrapChars quote? segment)) ++
    String.join (labels.map fun label => " AS " ++ String.ofList (wrapChars quote? label))

section Written

variable {quote? : Option Char} (hq : Delimits (quote?.getD '\x22'))
include hq

theorem takePath_intercalate {path : List (List Char)} (hpath : path ≠ []) {rest : List Char}
    (hrest : Bounds (quote?.getD '\x22') rest) (hdot : rest.head? ≠ some '.') :
    takePath (quote?.getD '\x22') ((String.intercalate "." (path.map fun segment =>
      String.ofList (wrapChars quote? segment))).toList ++ rest) = some (path, rest) := by
  induction path with
  | nil => exact absurd rfl hpath
  | cons segment path ih =>
    cases path with
    | nil =>
      rw [List.map_singleton, String.intercalate_singleton, String.toList_ofList]
      exact takePath_of_end (takeSegment_wrapChars hq segment hrest) hdot
    | cons next path =>
      rw [List.map_cons, String.intercalate_cons_of_ne_nil (by simp), String.toList_append,
        String.toList_append, String.toList_ofList, List.append_assoc, List.append_assoc]
      have hdotted : ".".toList = ['.'] := rfl
      rw [hdotted, List.singleton_append,
        takePath_of_dot (takeSegment_wrapChars hq segment (hq.bounds_dot _)),
        ih (List.cons_ne_nil _ _)]
      rfl

/-- Labels begin with a blank, if there are any. -/
theorem bounds_labels (labels : List (List Char)) :
    let text := String.join (labels.map fun label =>
      " AS " ++ String.ofList (wrapChars quote? label))
    Bounds (quote?.getD '\x22') text.toList ∧ text.toList.head? ≠ some '.' := by
  cases labels with
  | nil =>
    refine ⟨fun c hc => ?_, fun h => ?_⟩
    · cases hc
    · cases h
  | cons label labels =>
    simp only [List.map_cons, String.join_cons, String.toList_append]
    refine ⟨hq.bounds_blank _, fun h => ?_⟩
    cases h

theorem takeLabels_join (labels : List (List Char)) :
    takeLabels (quote?.getD '\x22') (String.join (labels.map fun label =>
      " AS " ++ String.ofList (wrapChars quote? label))).toList = some labels := by
  induction labels with
  | nil => exact takeLabels.eq_1 _
  | cons label labels ih =>
    have hlabel := takeSegment_wrapChars hq label (bounds_labels hq labels).1
    rw [List.map_cons, String.join_cons, String.toList_append, String.toList_append,
      List.append_assoc, String.toList_ofList (l := wrapChars quote? label)]
    refine (takeLabels_of_as hlabel).trans ?_
    rw [ih]
    rfl

/-- A written name is read back. -/
theorem readName_writeName {path : List (List Char)} (hpath : path ≠ [])
    (labels : List (List Char)) :
    readName (quote?.getD '\x22') (writeName quote? path labels) =
      some (path.map String.ofList, labels.map String.ofList) := by
  obtain ⟨hbounds, hdot⟩ := bounds_labels hq labels
  rw [readName, writeName, String.toList_append,
    takePath_intercalate hq hpath hbounds hdot]
  simp only [Option.bind_eq_bind, Option.bind_some, takeLabels_join hq labels]
  rfl

end Written

/-- The parts of an expression between dots, trimmed. -/
def segments (expression : String) : List (List Char) :=
  (splitDots expression.toList).map Text.trimChars

theorem segments_ne_nil (expression : String) : segments expression ≠ [] := by
  simp [segments, splitDots_ne_nil]

theorem wrapPath_eq_writeName (quote? : Option Char) (expression : String) :
    wrapPath quote? expression = writeName quote? (segments expression) [] := by
  rw [writeName, segments, List.map_map, List.map_nil, String.join_nil, String.append_empty]
  rfl

theorem writeName_concat (quote? : Option Char) (path labels : List (List Char)) (label : String) :
    writeName quote? path labels ++ " AS " ++ wrapSegment quote? label =
      writeName quote? path (labels ++ [label.toList]) := by
  simp [writeName, wrapSegment, String.append_assoc]

/-- What a name says: the trimmed parts of its expression, and its alias. -/
def parts (name : String) : List String × Option String :=
  ((segments (splitAlias (Text.trim name)).1).map String.ofList, (splitAlias (Text.trim name)).2)

theorem wrap_eq_writeName (quote? : Option Char) (name : String) :
    wrap quote? name = writeName quote? (segments (splitAlias (Text.trim name)).1)
      ((splitAlias (Text.trim name)).2.toList.map String.toList) := by
  rw [wrap]
  generalize splitAlias (Text.trim name) = halves
  obtain ⟨expression, label?⟩ := halves
  cases label? with
  | none => exact wrapPath_eq_writeName quote? expression
  | some label =>
    have hlabel := writeName_concat quote? (segments expression) [] label
    rwa [← wrapPath_eq_writeName] at hlabel

theorem wrap_eq_of_parts_eq (quote? : Option Char) {a b : String} (h : parts a = parts b) :
    wrap quote? a = wrap quote? b := by
  obtain ⟨hpath, hlabel⟩ := Prod.mk.inj h
  have hsegments := List.map_injective_iff.mpr (fun _ _ => String.ofList_inj.mp) hpath
  rw [wrap_eq_writeName, wrap_eq_writeName, hsegments, hlabel]

/-- Decoding a wrapped name gives the parts of its expression and its alias, whatever they hold. So
different segments are written differently, and names are written alike exactly when their parts are
the same. -/
theorem decode_wrap {quote? : Option Char} (hq : quote? ∈ [none, some '\x22', some '\x60']) :
    (∀ name, decode (quote?.getD '\x22') (wrap quote? name) = some (parts name)) ∧
    Function.Injective (wrapSegment quote?) ∧
    ∀ a b, wrap quote? a = wrap quote? b ↔ parts a = parts b := by
  have hdelimits := delimits_of_mem hq
  have hdecode : ∀ name, decode (quote?.getD '\x22') (wrap quote? name) = some (parts name) := by
    intro name
    rw [decode, wrap_eq_writeName, readName_writeName hdelimits (segments_ne_nil _), parts]
    cases (splitAlias (Text.trim name)).2 <;> simp
  refine ⟨hdecode, ?_, fun a b => ⟨fun h => ?_, wrap_eq_of_parts_eq quote?⟩⟩
  · intro a b h
    have hchars : wrapChars quote? a.toList = wrapChars quote? b.toList := String.ofList_inj.mp h
    have hread : ∀ text : String,
        takeSegment (quote?.getD '\x22') (wrapChars quote? text.toList) =
          some (text.toList, []) := by
      intro text
      have hend : Bounds (quote?.getD '\x22') [] := fun c hc => by cases hc
      have hsegment := takeSegment_wrapChars hdelimits text.toList hend
      rwa [List.append_nil] at hsegment
    have hsame := (hread a).symm.trans ((congrArg _ hchars).trans (hread b))
    exact String.toList_inj.mp (by simpa using hsame)
  · have hsame := (hdecode a).symm.trans ((congrArg _ h).trans (hdecode b))
    exact Option.some.inj hsame

theorem decode_wrap_sample :
    let name := " a. b\x22c .*. AS e as \x22x.y AS z "
    (none : Option Char) ∈ [none, some '\x22', some '\x60'] ∧
      wrap none name = "a.\x22b\x22\x22c\x22.*.\x22\x22 AS \x22e as \x22\x22x.y AS z\x22" ∧
      decode '\x22' (wrap none name) =
        some (["a", "b\x22c", "*", ""], some "e as \x22x.y AS z") := by
  intro name
  have hnone : (none : Option Char) ∈ [none, some '\x22', some '\x60'] := by decide
  refine ⟨hnone, by decide +kernel, ?_⟩
  exact ((decode_wrap hnone).1 name).trans (by decide +kernel)

end SqlSelect.Identifier
