import SqlSelect.Proofs.NameSplitting
import SqlSelect.Proofs.Refinement

/-!
# Names of roots

The first join of a chain qualifies its key with the name of the source that the chain starts from,
and that name is worked out apart from the text of the source. Both texts are read back here. The
name means the source when an alias that is printed is trimmed and has no dots, and not otherwise:
an explicit alias is printed as it is, but trimmed for the chain, and the dots of an alias stay
inside its quotes, but divide the qualifier.
-/

namespace SqlSelect

namespace Identifier

open Text (trimChars weight)

/-! ## The name that a source exposes -/

/-- Labels hide the segments before them, and all labels but the last. -/
def shown {α : Type} (path labels : List α) : List α :=
  (labels.getLast?.map ([·])).getD path

@[simp] theorem shown_nil {α : Type} (path : List α) : shown path [] = path := rfl

@[simp] theorem shown_concat {α : Type} (path labels : List α) (label : α) :
    shown path (labels ++ [label]) = [label] := by
  simp [shown]

theorem shown_map {α β : Type} (f : α → β) (path labels : List α) :
    shown (path.map f) (labels.map f) = (shown path labels).map f := by
  rw [shown, shown, List.getLast?_map]
  cases labels.getLast? <;> rfl

theorem shown_ne_nil {α : Type} {path : List α} (h : path ≠ []) (labels : List α) :
    shown path labels ≠ [] := by
  rw [shown]
  cases labels.getLast? with
  | none => exact h
  | some label => exact List.cons_ne_nil _ _

/-- The name by which other clauses know a written source. -/
def exposed (quote : Char) (text : String) : Option (List String) :=
  (readName quote text).map fun (path, labels) => shown path labels

theorem exposed_writeName {quote? : Option Char} (hq : Delimits (quote?.getD '\x22'))
    {path : List (List Char)} (hpath : path ≠ []) (labels : List (List Char)) :
    exposed (quote?.getD '\x22') (writeName quote? path labels) =
      some ((shown path labels).map String.ofList) := by
  rw [exposed, readName_writeName hq hpath]
  exact congrArg some (shown_map String.ofList path labels)

theorem intercalate_eq_writeName (quote? : Option Char) (path : List (List Char)) :
    String.intercalate "." ((path.map String.ofList).map (wrapSegment quote?)) =
      writeName quote? path [] := by
  simp [writeName, wrapSegment, Function.comp_def]

theorem writeName_inj {quote? : Option Char} (hq : Delimits (quote?.getD '\x22'))
    {a b : List (List Char)} (ha : a ≠ []) (hb : b ≠ []) :
    writeName quote? a [] = writeName quote? b [] ↔ a = b := by
  refine ⟨fun h => ?_, fun h => by rw [h]⟩
  have hread := congrArg (readName (quote?.getD '\x22')) h
  rw [readName_writeName hq ha, readName_writeName hq hb] at hread
  exact List.map_injective_iff.mpr (fun _ _ => String.ofList_inj.mp)
    (Prod.mk.inj (Option.some.inj hread)).1

/-- The labels in the text of a table, the one inside its name first. -/
def tableLabels (name : String) (alias? : Option String) : List (List Char) :=
  ((splitAlias (Text.trim name)).2.toList ++ alias?.toList).map String.toList

/-- What the text of a table exposes. -/
def tableShown (name : String) (alias? : Option String) : List (List Char) :=
  shown (segments (splitAlias (Text.trim name)).1) (tableLabels name alias?)

/-- The alias that the text of a table prints last is trimmed and has no dots, and where it comes
from the name of the table, it has an expression in front. -/
def PrintsName (name : String) (alias? : Option String) : Prop :=
  match alias?, splitAlias name with
  | some label, _ => Text.trim label = label ∧ '.' ∉ label.toList
  | none, (expression, some label) => expression ≠ "" ∧ '.' ∉ label.toList
  | none, (_, none) => True

instance (name : String) (alias? : Option String) : Decidable (PrintsName name alias?) := by
  unfold PrintsName
  split <;> infer_instance

theorem tableShown_ne_nil (name : String) (alias? : Option String) :
    tableShown name alias? ≠ [] :=
  shown_ne_nil (segments_ne_nil _) _

theorem tableShown_some (name label : String) : tableShown name (some label) = [label.toList] := by
  simp [tableShown, tableLabels]

theorem segments_trim_eq_iff (label : String) :
    segments (Text.trim label) = [label.toList] ↔
      Text.trim label = label ∧ '.' ∉ label.toList := by
  have htrim : trimChars label.toList = label.toList ↔ Text.trim label = label := by
    rw [Text.trim, ← String.toList_inj, String.toList_ofList]
  rw [segments_trim, segments_eq_singleton_iff, and_comm, htrim]

theorem name?_table {Q : Type} {name root : String} {alias? : Option String}
    (h : (Source.table name alias? : Source Q).name? = some root) :
    Text.trim (alias?.getD ((splitAlias name).2.getD name)) = root ∧ root ≠ "" := by
  obtain ⟨hgiven, hne⟩ := Option.filter_eq_some_iff.mp h
  have hroot : root ≠ "" := by simpa using hne
  cases alias? <;> exact ⟨Option.some.inj hgiven, hroot⟩

/-- A name with nothing before its separator loses the separator when it is trimmed. Its text has
more in it than the alias, or a shorter alias that stands behind another separator. -/
theorem segments_ne_tableShown {name label : String} (h : splitAlias name = ("", some label)) :
    segments label ≠ tableShown name none := by
  obtain ⟨before, rest, hsplit, hbefore, rfl⟩ := splitAlias_eq_some h
  intro hsame
  have hname : weight name.toList = weight rest + 2 := by
    have hnil : trimChars before = [] := String.ofList_eq_empty_iff.mp hbefore
    have hzero : weight before = 0 := by
      rw [← Text.weight_trimChars, hnil]
      rfl
    rw [weight_of_splitAs? hsplit, hzero, Nat.zero_add]
  have hlabel := weight_segments (String.ofList (trimChars rest))
  rw [hsame, String.toList_ofList, Text.weight_trimChars] at hlabel
  cases hagain : splitAlias (Text.trim name) with
  | mk expression label? =>
    cases label? with
    | none =>
      obtain ⟨_, hexpression⟩ := splitAlias_eq_none hagain
      have hshown : tableShown name none = segments name := by
        simp [tableShown, tableLabels, hagain, ← hexpression, segments_trim]
      rw [hshown, weight_segments] at hlabel
      omega
    | some label' =>
      obtain ⟨before', rest', hsplit', _, rfl⟩ := splitAlias_eq_some hagain
      have hshown : tableShown name none = [trimChars rest'] := by
        simp [tableShown, tableLabels, hagain, shown]
      rw [Text.trim, String.toList_ofList] at hsplit'
      have hbefore' := weight_pos_of_splitAs? hsplit'
      have hweight := weight_of_splitAs? hsplit'
      rw [Text.weight_trimChars] at hweight
      rw [hshown, List.flatten_singleton, Text.weight_trimChars, List.length_singleton] at hlabel
      omega

/-- The name of a table has the segments that its text exposes exactly when the alias that the text
prints last is as the name has it. -/
theorem segments_eq_tableShown_iff {Q : Type} {name root : String} {alias? : Option String}
    (h : (Source.table name alias? : Source Q).name? = some root) :
    segments root = tableShown name alias? ↔ PrintsName name alias? := by
  obtain ⟨hroot, hne⟩ := name?_table h
  unfold PrintsName
  split
  · rename_i label
    rw [← hroot, tableShown_some]
    exact segments_trim_eq_iff label
  · rename_i expression label hsplit
    have htrim := trim_eq_of_splitAlias hsplit
    have hlabel : root = label := by
      rw [← hroot, hsplit]
      exact htrim
    subst hlabel
    by_cases hexpression : expression = ""
    · rw [hexpression] at hsplit
      simp [hexpression, segments_ne_tableShown hsplit]
    · have hshown : tableShown name none = [root.toList] := by
        simp [tableShown, tableLabels, splitAlias_trim hsplit hexpression hne, shown]
      have hsegments := segments_trim_eq_iff root
      rw [htrim] at hsegments
      rw [hshown, hsegments]
      simp [hexpression]
  · rename_i hsplit
    obtain ⟨hnone, _⟩ := splitAlias_eq_none hsplit
    rw [← hroot, hsplit]
    simp [tableShown, tableLabels, splitAlias_trim_of_none hnone]

/-! ## The qualifier -/

/-- A qualified key reads as segments followed by those of the key exactly when they are the
segments of the root and the root has no separator of its own. -/
theorem readName_qualified_iff {quote? : Option Char} (hq : Delimits (quote?.getD '\x22'))
    {root key : String} (htrim : Text.trim root = root) (hne : root ≠ "")
    (hkey : splitAs? key.toList = none) (path : List (List Char)) :
    readName (quote?.getD '\x22') (wrap quote? (root ++ "." ++ key)) =
        some ((path ++ segments key).map String.ofList, []) ↔
      segments root = path ∧ splitAs? root.toList = none := by
  have hdotted : (root ++ "." ++ key).toList = root.toList ++ '.' :: key.toList := by
    simp [String.toList_append]
  rw [wrap_eq_writeName, readName_writeName hq (segments_ne_nil _)]
  cases hroot : splitAs? root.toList with
  | none =>
    have hnone : splitAs? (root ++ "." ++ key).toList = none := by
      rw [hdotted]
      exact splitAs?_append_dot hroot hkey
    rw [splitAlias_trim_of_none hnone, segments_trim, segments_append_dot]
    simp [List.map_inj_right fun _ _ => String.ofList_inj.mp]
  | some halves =>
    have hchars : trimChars root.toList = root.toList := by
      rw [← String.toList_ofList (l := trimChars root.toList)]
      exact congrArg String.toList htrim
    have hfront := trimChars_append_dot hchars (by simpa using hne) key.toList
    have hsplit : splitAs? (Text.trim (root ++ "." ++ key)).toList ≠ none := by
      rw [Text.trim, String.toList_ofList, hdotted, hfront, splitAs?_append hroot]
      exact Option.some_ne_none _
    cases hagain : splitAlias (Text.trim (root ++ "." ++ key)) with
    | mk expression label? =>
      cases label? with
      | none => exact absurd (splitAlias_eq_none hagain).1 hsplit
      | some label => simp

end Identifier

/-- A chain starts from the name of the source. -/
theorem Expander.source_of_chain {Q : Type} {x : Expander} {s : Store Q} {d : DeepJoin}
    {source : Source Q} {root : String} {link : Link} {links : List Link}
    (hfrom : s.getFirst? Clause.source? .from = some source) (hroot : source.name? = some root)
    (h : x.chain s d = .ok (link :: links)) : link.source = root := by
  have hname : s.rootName? = some root := by rw [Store.rootName?, hfrom, Option.bind_some, hroot]
  rw [Expander.chain, hname] at h
  cases hsegments : d.segments with
  | nil => simp [hsegments] at h
  | cons target targets =>
    rw [hsegments] at h
    cases h
    rfl

theorem Dialect.delimits_of_builtin {d : Dialect} (h : d ∈ Dialect.builtin) :
    Identifier.Delimits (d.quote?.getD '\x22') := by
  apply Identifier.delimits_of_mem
  simp only [Dialect.builtin, List.mem_cons, List.not_mem_nil, or_false] at h
  rcases h with rfl | rfl | rfl | rfl <;> decide

theorem Compiler.writeSource_table (c : Compiler) (name : String) (alias? : Option String) :
    c.writeSource (.table name alias?) =
      pure (Identifier.writeName c.dialect.quote?
        (Identifier.segments (Identifier.splitAlias (Text.trim name)).1)
        (Identifier.tableLabels name alias?)) := by
  cases alias? with
  | none =>
    rw [Identifier.tableLabels, Option.toList_none, List.append_nil, ← Identifier.wrap_eq_writeName]
    rfl
  | some label =>
    rw [Identifier.tableLabels, Option.toList_some, List.map_append, List.map_singleton,
      ← Identifier.writeName_concat, ← Identifier.wrap_eq_writeName]
    rfl

theorem Compiler.writeCondition_equal {c : Compiler} (hr : c.registry = .standard)
    (first second : String) :
    c.writeCondition (.compareColumns first "=" second) =
      pure (c.dialect.wrap first ++ " = " ++ c.dialect.wrap second) := by
  have hsign : " = " = " " ++ ("=" ++ " ") := by decide
  rw [Condition.compareColumns, Condition.ofPredicate, Compiler.writeCondition_standard hr rfl]
  simp only [Compiler.writePredicate, negate, Bool.false_eq_true, ↓reduceIte, hsign,
    String.append_assoc]

/-- The join of a link is written with both its keys qualified. -/
theorem Compiler.writeJoin_link {c : Compiler} (hr : c.registry = .standard) (kind : JoinKind)
    (link : Link) :
    c.writeJoin (link.toJoin kind) =
      pure (kind.keyword ++ " " ++ c.dialect.wrap link.target ++ " ON " ++
        (c.dialect.wrap (link.source ++ "." ++ link.sourceKey) ++ " = " ++
          c.dialect.wrap (link.target ++ "." ++ link.targetKey))) := by
  have hsome : (c.dialect.wrap (link.source ++ "." ++ link.sourceKey) ++ " = " ++
      c.dialect.wrap (link.target ++ "." ++ link.targetKey)).isEmpty = false := by
    simp [String.isEmpty_eq_false_iff]
  simp only [Link.toJoin, Join.onColumns, Compiler.writeJoin, Compiler.writeConditions,
    Compiler.writeTerms, Compiler.writeCondition_equal hr, Compiler.writeSource, pure_bind, hsome]
  simp [Term.join, String.append_assoc]

/-- Whether the name of a table means the table. The text of the table exposes its last alias, or
else its name. The root of a chain has the segments of that exactly when the alias is trimmed and
has no dots; and the first key of a chain, which the join writes after the root, reads as a column
of what is exposed exactly when the root has no separator besides. -/
theorem root_names_table_iff {c : Compiler} (hd : c.dialect ∈ Dialect.builtin)
    (hr : c.registry = .standard) {name root : String} {alias? : Option String}
    (hroot : (Source.table name alias? : Source Query).name? = some root) :
    ∃ text exposed, (∀ ctx, c.source (.table name alias?) ctx = .ok text ctx) ∧
      Identifier.exposed (c.dialect.quote?.getD '\x22') text = some exposed ∧
      (Identifier.wrapPath c.dialect.quote? root =
          String.intercalate "." (exposed.map c.dialect.wrapSegment) ↔
        Identifier.PrintsName name alias?) ∧
      ∀ (x : Expander) (s : Store Query) (d : DeepJoin) (link : Link) (links : List Link),
        s.getFirst? Clause.source? .from = some (.table name alias?) →
        x.chain s d = .ok (link :: links) →
        (∀ ctx, c.writeJoin (link.toJoin d.kind) ctx =
          .ok (d.kind.keyword ++ " " ++ c.dialect.wrap link.target ++ " ON " ++
            (c.dialect.wrap (root ++ "." ++ link.sourceKey) ++ " = " ++
              c.dialect.wrap (link.target ++ "." ++ link.targetKey))) ctx) ∧
        (Identifier.splitAs? link.sourceKey.toList = none →
          (Identifier.readName (c.dialect.quote?.getD '\x22')
              (c.dialect.wrap (root ++ "." ++ link.sourceKey)) =
            some (exposed ++ (Identifier.segments link.sourceKey).map String.ofList, []) ↔
          Identifier.PrintsName name alias? ∧ Identifier.splitAs? root.toList = none)) := by
  have hq := Dialect.delimits_of_builtin hd
  have hsegments := Identifier.segments_eq_tableShown_iff hroot
  obtain ⟨hgiven, hne⟩ := Identifier.name?_table hroot
  have htrim : Text.trim root = root := by rw [← hgiven, Text.trim_trim]
  refine ⟨_, (Identifier.tableShown name alias?).map String.ofList, fun ctx => ?_,
    Identifier.exposed_writeName hq (Identifier.segments_ne_nil _) _, ?_, ?_⟩
  · exact congrFun (c.writeSource_table name alias?) ctx
  · have hshown := Identifier.tableShown_ne_nil name alias?
    have hjoined := Identifier.intercalate_eq_writeName c.dialect.quote?
      (Identifier.tableShown name alias?)
    rw [← hsegments, Identifier.wrapPath_eq_writeName,
      ← Identifier.writeName_inj hq (Identifier.segments_ne_nil _) hshown, ← hjoined]
    rfl
  · intro x s d link links hfrom hchain
    have hsource : link.source = root := Expander.source_of_chain hfrom hroot hchain
    have hwrite := c.writeJoin_link hr d.kind link
    rw [hsource] at hwrite
    refine ⟨congrFun hwrite, fun hkey => ?_⟩
    rw [← hsegments, ← Identifier.readName_qualified_iff hq htrim hne hkey, List.map_append]
    rfl

theorem root_names_table_iff_sample :
    (Source.table "posts as p" none : Source Query).name? = some "p" ∧
    Identifier.PrintsName "posts as p" none ∧
    ∃ text exposed, (∀ ctx, Compiler.source { dialect := .mysql } (.table "posts as p" none) ctx =
        .ok text ctx) ∧
      Identifier.exposed '\x60' text = some exposed ∧
      Identifier.wrapPath (some '\x60') "p" =
        String.intercalate "." (exposed.map (Identifier.wrapSegment (some '\x60'))) := by
  have hroot : (Source.table "posts as p" none : Source Query).name? = some "p" := by
    decide +kernel
  have hprints : Identifier.PrintsName "posts as p" none := by decide +kernel
  obtain ⟨text, exposed, hsource, hexposed, hsame, _⟩ :=
    root_names_table_iff (c := { dialect := .mysql }) (by simp [Dialect.builtin]) rfl hroot
  exact ⟨hroot, hprints, text, exposed, hsource, hexposed, hsame.mpr hprints⟩

/-- An alias with blanks around it is printed with them, and the chain asks for it without. -/
theorem root_names_table_padded_alias :
    (Source.table "posts" (some " p ") : Source Query).name? = some "p" ∧
    (Compiler.compile { dialect := .postgres }
        ((Query.empty.fromTableAs "posts" " p ").deepJoin "author")).outcome.toOption.map (·.sql) =
      some ("SELECT * FROM \x22posts\x22 AS \x22 p \x22 " ++
        "INNER JOIN \x22author\x22 ON \x22p\x22.\x22authorId\x22 = \x22author\x22.\x22Id\x22") ∧
    Identifier.exposed '\x22' "\x22posts\x22 AS \x22 p \x22" = some [" p "] ∧
    Identifier.wrapPath (some '\x22') "p" ≠ Identifier.wrapSegment (some '\x22') " p " := by
  exact ⟨by decide +kernel, by decide +kernel, by decide +kernel, by decide +kernel⟩

end SqlSelect
