import SqlSelect.Text.Blank
import SqlSelect.Text.Alphanumeric
import SqlSelect.Value.Literal

/-!
# Identifiers

A name may be qualified by dots and may carry an alias after the word `as`. Each segment is quoted
by itself: with the quote of the dialect, or, where the dialect has none, only when it is not a
plain word. A quote inside a segment is written twice, so a segment never ends early.
-/

namespace SqlSelect.Identifier

/-- What follows a separator ` as ` at the front, in any case of its two letters. -/
def afterAs? : List Char → Option (List Char)
  | ' ' :: a :: s :: ' ' :: rest => if a.toLower = 'a' ∧ s.toLower = 's' then some rest else none
  | _ => none

/-- The parts before and after the leftmost separator. -/
def splitAs? : List Char → Option (List Char × List Char)
  | [] => none
  | c :: cs =>
    match afterAs? (c :: cs) with
    | some rest => some ([], rest)
    | none => (splitAs? cs).map fun (before, rest) => (c :: before, rest)

/-- Splits `expression as alias` at the leftmost separator and trims both parts. Without a separator
the text is kept as it is. -/
def splitAlias (text : String) : String × Option String :=
  match splitAs? text.toList with
  | some (before, rest) =>
    (String.ofList (Text.trimChars before), some (String.ofList (Text.trimChars rest)))
  | none => (text, none)

/-- The parts between dots. There is always at least one. -/
def splitDots : List Char → List (List Char)
  | [] => [[]]
  | c :: cs =>
    if c = '.' then [] :: splitDots cs
    else match splitDots cs with
      | [] => [[c]]
      | part :: parts => (c :: part) :: parts

/-- A word of letters, numbers and underscores. -/
def isPlain (cs : List Char) : Bool :=
  !cs.isEmpty && cs.all fun c => Text.isAlphanumeric c || c == '_'

/-- One segment: a star stands for itself, and without a quote of its own the dialect leaves plain
words bare and puts all else in double quotes. -/
def wrapChars (quote? : Option Char) (cs : List Char) : List Char :=
  if cs = ['*'] then ['*']
  else match quote? with
    | some quote => enclose quote cs
    | none => if isPlain cs then cs else enclose '\x22' cs

/-- One segment of a name. -/
def wrapSegment (quote? : Option Char) (segment : String) : String :=
  String.ofList (wrapChars quote? segment.toList)

/-- The segments of an expression, each trimmed and wrapped, with dots between them. -/
def wrapPath (quote? : Option Char) (expression : String) : String :=
  String.intercalate "." ((splitDots expression.toList).map fun part =>
    String.ofList (wrapChars quote? (Text.trimChars part)))

/-- A name that may be qualified and may carry an alias. -/
def wrap (quote? : Option Char) (name : String) : String :=
  match splitAlias (Text.trim name) with
  | (expression, some label) => wrapPath quote? expression ++ " AS " ++ wrapSegment quote? label
  | (expression, none) => wrapPath quote? expression

/-- A list of names; no names at all stand for every column. -/
def wrapList (quote? : Option Char) : List String → String
  | [] => "*"
  | names => String.intercalate ", " (names.map (wrap quote?))

end SqlSelect.Identifier
