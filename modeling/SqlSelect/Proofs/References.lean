import SqlSelect.Proofs.Lexing

/-!
# Names read back

A name in SQL text is a list of segments with dots between them, each in quotes or a star, and may
be followed by the word AS and an alias. Reading the wrapped form of a name in this way gives back
the trimmed parts of the name and its alias, whatever they hold, and stops where the name ends.
-/

namespace SqlSelect.Sql

/-- A name as it is read. A table expression may add an alias to one that the name has already. -/
structure Reference where
  path : List (List Char)
  aliases : List (List Char)
  path_ne_nil : path ≠ []
  deriving DecidableEq

theorem splitDots_ne_nil (cs : List Char) : Identifier.splitDots cs ≠ [] := by
  cases cs with
  | nil => simp [Identifier.splitDots]
  | cons c cs =>
    unfold Identifier.splitDots
    split
    · exact List.cons_ne_nil _ _
    · split <;> exact List.cons_ne_nil _ _

/-- What a wrapped name refers to. -/
def Reference.ofName (name : String) : Reference where
  path :=
    (Identifier.splitDots (Identifier.splitAlias (Text.trim name)).1.toList).map Text.trimChars
  aliases := (Identifier.splitAlias (Text.trim name)).2.toList.map String.toList
  path_ne_nil := by simp [splitDots_ne_nil]

section Reading

variable (quote : Char)

/-- A segment of a name. -/
def segment? : Token → Option (List Char)
  | .quoted q text => if q = quote then some text else none
  | .star => some ['*']
  | _ => none

/-- Reads segments with dots between them. -/
def takePath : List Token → Option (List (List Char) × List Token)
  | [] => none
  | t :: .dot :: ts => do
    let segment ← segment? quote t
    let (path, rest) ← takePath ts
    return (segment :: path, rest)
  | t :: ts => (segment? quote t).map fun segment => ([segment], ts)

/-- Reads aliases. -/
def takeAliases : List Token → List (List Char) × List Token
  | .keyword .as :: t :: ts =>
    match segment? quote t with
    | some segment => (segment :: (takeAliases ts).1, (takeAliases ts).2)
    | none => ([], .keyword .as :: t :: ts)
  | ts => ([], ts)

/-- Reads a name. -/
def takeReference (ts : List Token) : Option (Reference × List Token) :=
  (takePath quote ts).bind fun (path, rest) =>
    if h : path = [] then none
    else some (⟨path, (takeAliases quote rest).1, h⟩, (takeAliases quote rest).2)

end Reading

/-! ## The tokens of a name -/

section Spelling

variable (quote : Char)

def segmentToken (segment : List Char) : Token :=
  if segment = ['*'] then .star else .quoted quote segment

def pathTokens : List (List Char) → List Token
  | [] => []
  | [segment] => [segmentToken quote segment]
  | segment :: next :: path => segmentToken quote segment :: .dot :: pathTokens (next :: path)

def Reference.tokens (r : Reference) : List Token :=
  pathTokens quote r.path ++ r.aliases.flatMap fun label => [.keyword .as, segmentToken quote label]

/-- A name ends before these tokens. -/
def Stops (rest : List Token) : Prop :=
  rest.head? ≠ some .dot ∧ rest.head? ≠ some (.keyword .as)

@[simp] theorem segment?_segmentToken (segment : List Char) :
    segment? quote (segmentToken quote segment) = some segment := by
  unfold segmentToken
  split <;> simp [segment?, *]

theorem takePath_pathTokens {path : List (List Char)} (hpath : path ≠ []) {rest : List Token}
    (hrest : rest.head? ≠ some .dot) :
    takePath quote (pathTokens quote path ++ rest) = some (path, rest) := by
  induction path with
  | nil => exact absurd rfl hpath
  | cons segment path ih =>
    cases path with
    | nil =>
      cases rest with
      | nil => simp [pathTokens, takePath]
      | cons t ts =>
        have ht : t ≠ .dot := fun h => hrest (by rw [h]; rfl)
        cases t <;> simp_all [pathTokens, takePath]
    | cons next path => simp [pathTokens, takePath, ih (List.cons_ne_nil _ _)]

theorem takeAliases_of_stops {rest : List Token} (h : rest.head? ≠ some (.keyword .as)) :
    takeAliases quote rest = ([], rest) := by
  unfold takeAliases
  split
  · exact absurd rfl h
  · rfl

theorem takeAliases_flatMap (aliases : List (List Char)) {rest : List Token}
    (hrest : rest.head? ≠ some (.keyword .as)) :
    takeAliases quote
      ((aliases.flatMap fun label => [.keyword .as, segmentToken quote label]) ++ rest) =
      (aliases, rest) := by
  induction aliases with
  | nil => exact takeAliases_of_stops quote hrest
  | cons label aliases ih => simp [takeAliases, ih]

theorem Reference.tokens_eq_cons (r : Reference) :
    ∃ segment ts, r.tokens quote = segmentToken quote segment :: ts := by
  obtain ⟨path, aliases, hpath⟩ := r
  match path with
  | [] => exact absurd rfl hpath
  | [segment] => exact ⟨segment, _, rfl⟩
  | segment :: _ :: _ => exact ⟨segment, _, rfl⟩

/-- A name is read to its end. -/
theorem takeReference_tokens (r : Reference) {rest : List Token} (hrest : Stops rest) :
    takeReference quote (r.tokens quote ++ rest) = some (r, rest) := by
  have hstop : ((r.aliases.flatMap fun label =>
      [Token.keyword .as, segmentToken quote label]) ++ rest).head? ≠ some .dot := by
    cases r.aliases with
    | nil => exact hrest.1
    | cons label aliases => simp
  rw [Reference.tokens, List.append_assoc, takeReference,
    takePath_pathTokens quote r.path_ne_nil hstop]
  simp [takeAliases_flatMap quote _ hrest.2, r.path_ne_nil]

end Spelling

theorem Stops.append {ts rest : List Token} (hts : Stops ts) (hrest : Stops rest) :
    Stops (ts ++ rest) := by
  cases ts with
  | nil => exact hrest
  | cons t ts => exact hts

/-! ## Phrases one after the other -/

section Phrases

variable {α : Type} {take : List Token → Option (α × List Token)}

/-- Reads phrases up to the end. A phrase that takes no token ends the reading. -/
def readAll (take : List Token → Option (α × List Token)) (ts : List Token) : Option (List α) :=
  if ts = [] then some []
  else match take ts with
    | some (a, rest) =>
      if rest.length < ts.length then (readAll take rest).map (a :: ·) else none
    | none => none
termination_by ts.length

theorem readAll_nil : readAll take [] = some [] := by
  rw [readAll, if_pos rfl]

theorem readAll_eq_cons {ts rest : List Token} {a : α} (h : take ts = some (a, rest))
    (hlt : rest.length < ts.length) : readAll take ts = (readAll take rest).map (a :: ·) := by
  have hne : ts ≠ [] := List.ne_nil_of_length_pos (by omega)
  rw [readAll, if_neg hne, h]
  exact if_pos hlt

/-- The tokens are read as these phrases wherever a name may end after them. -/
def Groups (take : List Token → Option (α × List Token)) (ts : List Token) (as : List α) : Prop :=
  ∀ rest, Stops rest → readAll take (ts ++ rest) = (readAll take rest).map (as ++ ·)

theorem Groups.nil : Groups take [] [] := by
  intro rest _
  simp

theorem Groups.single {ts : List Token} {a : α} (hne : ts ≠ [])
    (h : ∀ rest, Stops rest → take (ts ++ rest) = some (a, rest)) : Groups take ts [a] := by
  intro rest hrest
  have hpos := List.length_pos_iff.2 hne
  exact readAll_eq_cons (h rest hrest) (by simp only [List.length_append]; omega)

theorem Groups.append {ts us : List Token} {as bs : List α} (hts : Groups take ts as)
    (hus : Groups take us bs) (hstops : Stops us) : Groups take (ts ++ us) (as ++ bs) := by
  intro rest hrest
  rw [List.append_assoc, hts _ (hstops.append hrest), hus rest hrest, Option.map_map]
  simp [Function.comp_def]

theorem Groups.readAll_eq {ts : List Token} {as : List α} (h : Groups take ts as) :
    readAll take ts = some as := by
  have hall := h [] (by simp [Stops])
  simpa [readAll_nil] using hall

end Phrases

/-! ## Wrapped names -/

section Wrapped

variable {quote : Char} (hq : Placeholder.isQuote quote = true)
include hq

theorem spells_wrapChars (segment : List Char) :
    Spells (String.ofList (Identifier.wrapChars (some quote) segment))
      [segmentToken quote segment] := by
  unfold Identifier.wrapChars segmentToken
  split
  · decide
  · exact spells_enclose hq segment

theorem spells_path {path : List (List Char)} (hpath : path ≠ []) :
    Spells (String.intercalate "." (path.map fun segment =>
      String.ofList (Identifier.wrapChars (some quote) segment))) (pathTokens quote path) := by
  induction path with
  | nil => exact absurd rfl hpath
  | cons segment path ih =>
    cases path with
    | nil =>
      rw [List.map_singleton, String.intercalate_singleton]
      exact spells_wrapChars hq segment
    | cons next path =>
      rw [List.map_cons, String.intercalate_cons_of_ne_nil (by simp)]
      have hdot : Ends "." [.dot] := by decide
      have hsegment := (spells_wrapChars hq segment).append_ends hdot (by decide)
      exact hsegment.append_spells (ih (List.cons_ne_nil _ _))

theorem spells_wrapPath (expression : String) :
    Spells (Identifier.wrapPath (some quote) expression)
      (pathTokens quote ((Identifier.splitDots expression.toList).map Text.trimChars)) := by
  have hne : (Identifier.splitDots expression.toList).map Text.trimChars ≠ [] := by
    simp [splitDots_ne_nil]
  have hpath := spells_path hq hne
  rwa [List.map_map] at hpath

/-- A wrapped name has the tokens of what it refers to. -/
theorem spells_wrap (name : String) :
    Spells (Identifier.wrap (some quote) name) ((Reference.ofName name).tokens quote) := by
  simp only [Identifier.wrap, Reference.tokens, Reference.ofName]
  generalize Identifier.splitAlias (Text.trim name) = parts
  obtain ⟨expression, label?⟩ := parts
  have hpath := spells_wrapPath hq expression
  cases label? with
  | none => simpa using hpath
  | some label =>
    have has : Ends " AS " [.keyword .as] := by decide
    simpa [Identifier.wrapSegment] using
      (hpath.append_ends has (by decide)).append_spells (spells_wrapChars hq label.toList)

end Wrapped

end SqlSelect.Sql
