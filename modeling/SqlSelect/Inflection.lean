import SqlSelect.Text.Alphanumeric
import SqlSelect.Text.LetterCase

/-!
# Singular forms

The singular of an English noun, by a short list of exceptions and the regular endings. Words that
are not recognised as plurals stay as they are. Endings are compared without regard to the case of
ASCII letters; the letters that are put in follow the case of the word.
-/

namespace SqlSelect.Inflection

/-- Words with one form. -/
def uncountable : List String :=
  ["data", "equipment", "information", "news", "series", "species"]

/-- Plurals with a singular of their own. -/
def irregular : List (String × String) :=
  [("people", "person"), ("children", "child"), ("men", "man"), ("women", "woman"),
    ("mice", "mouse"), ("geese", "goose"), ("feet", "foot"), ("teeth", "tooth")]

/-- A word with letters, none of them lower-case. -/
def isCapitals (word : List Char) : Bool :=
  word.any Text.isAlphabetic && !word.any Text.isLowercase

/-- The replacement in the case of the word: all capitals, a capital first, or as listed. -/
def matchCase (word replacement : List Char) : List Char :=
  if isCapitals word then replacement.map Char.toUpper
  else match word, replacement with
    | first :: _, r :: rest => if Text.isUppercase first then r.toUpper :: rest else r :: rest
    | _, _ => replacement

def dropEnd (n : Nat) (word : List Char) : List Char :=
  word.take (word.length - n)

/-- Whether a word in small letters ends in `ending`. -/
def endsIn (ending : String) (lower : List Char) : Bool :=
  ending.toList.isSuffixOf lower

/-- The singular of a regular plural. -/
def regular (word : List Char) : List Char :=
  let lower := word.map Char.toLower
  if endsIn "ies" lower && 3 < word.length then
    dropEnd 3 word ++ [if isCapitals word then 'Y' else 'y']
  else if endsIn "ves" lower && 3 < word.length then
    dropEnd 3 word ++ [if isCapitals word then 'F' else 'f']
  else if ["sses", "shes", "ches", "xes", "zes"].any (endsIn · lower) then dropEnd 2 word
  else if ["ss", "us", "is"].any (endsIn · lower) then word
  else if endsIn "s" lower && 1 < word.length then dropEnd 1 word
  else word

/-- The singular of a word given by its characters. -/
def singularChars (word : List Char) : List Char :=
  let lower := String.ofList (word.map Char.toLower)
  if uncountable.contains lower then word
  else match irregular.lookup lower with
    | some singular => matchCase word singular.toList
    | none => regular word

/-- The singular of a word. -/
def singular (word : String) : String :=
  String.ofList (singularChars word.toList)

end SqlSelect.Inflection
