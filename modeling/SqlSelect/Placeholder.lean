/-!
# Placeholders

A statement marks the places of its values by `?`, counted from one in order of appearance, or by
`$` and a number. Inside quoted names and texts neither is a placeholder. The scanner is a machine
that reads one character at a time and knows only whether it is outside quotes, inside which quote,
or after a `$`; a doubled quote closes a quoted part and opens the next, so it needs no rule.

The tokens of a text spell the text, and counting, listing and replacing are all defined on them.
-/

namespace SqlSelect

/-- A placeholder with the number of the value it stands for. -/
inductive Placeholder where
  | positional (index : Nat)
  | numbered (index : Nat)
  deriving DecidableEq

namespace Placeholder

def index : Placeholder → Nat
  | .positional n | .numbered n => n

/-- A piece of scanned text. -/
inductive Token where
  | char (c : Char)
  | mark
  | dollar (digits : List Char)
  deriving DecidableEq

/-- Where the scanner stands between two characters. -/
inductive Mode where
  | outside
  | quoted (quote : Char)
  | dollar (digits : List Char)
  deriving DecidableEq

/-- The double quote, the single quote and the backtick. -/
def isQuote (c : Char) : Bool :=
  c == '\x22' || c == '\x27' || c == '\x60'

/-- One character outside quotes. -/
def Mode.stepOutside (c : Char) : Mode × List Token :=
  if isQuote c then (.quoted c, [.char c])
  else if c = '?' then (.outside, [.mark])
  else if c = '$' then (.dollar [], [])
  else (.outside, [.char c])

/-- One character: the mode after it and the tokens it completes. -/
def Mode.step : Mode → Char → Mode × List Token
  | .outside, c => Mode.stepOutside c
  | .quoted quote, c => (if c = quote then .outside else .quoted quote, [.char c])
  | .dollar digits, c =>
    if c.isDigit then (.dollar (digits ++ [c]), [])
    else ((Mode.stepOutside c).1, .dollar digits :: (Mode.stepOutside c).2)

/-- The token that the end of the text completes. -/
def Mode.finish : Mode → List Token
  | .dollar digits => [.dollar digits]
  | _ => []

/-- The mode after a text. -/
def Mode.after (mode : Mode) : List Char → Mode
  | [] => mode
  | c :: cs => (mode.step c).1.after cs

/-- The tokens of a text that starts in the given mode. -/
def scanFrom (mode : Mode) : List Char → List Token
  | [] => mode.finish
  | c :: cs => (mode.step c).2 ++ scanFrom (mode.step c).1 cs

/-- The tokens of a text. -/
def scan (sql : String) : List Token :=
  scanFrom .outside sql.toList

/-- The text of a token. -/
def Token.spelling : Token → List Char
  | .char c => [c]
  | .mark => ['?']
  | .dollar digits => '$' :: digits

/-- The value of decimal digits. -/
def digitsValue (digits : List Char) : Nat :=
  digits.foldl (fun n c => 10 * n + (c.toNat - '0'.toNat)) 0

/-- The number after a `$`: there must be one, and it fits 64 bits. -/
def number? (digits : List Char) : Option Nat :=
  if digits.isEmpty || UInt64.size ≤ digitsValue digits then none else some (digitsValue digits)

/-- The placeholders among tokens, when `seen` marks precede them. -/
def placeholdersFrom (seen : Nat) : List Token → List Placeholder
  | [] => []
  | .char _ :: tokens => placeholdersFrom seen tokens
  | .mark :: tokens => .positional (seen + 1) :: placeholdersFrom (seen + 1) tokens
  | .dollar digits :: tokens =>
    ((number? digits).map .numbered).toList ++ placeholdersFrom seen tokens

/-- The placeholders of a text in order. -/
def all (sql : String) : List Placeholder :=
  placeholdersFrom 0 (scan sql)

/-- The number of `?` placeholders of a text. -/
def count (sql : String) : Nat :=
  (scan sql).countP (· == .mark)

/-- The text of tokens in which `f` replaces the placeholders it knows, when `seen` marks precede
them. -/
def replaceFrom (f : Placeholder → Option String) (seen : Nat) : List Token → List Char
  | [] => []
  | .char c :: tokens => c :: replaceFrom f seen tokens
  | .mark :: tokens =>
    ((f (.positional (seen + 1))).map String.toList).getD ['?'] ++ replaceFrom f (seen + 1) tokens
  | .dollar digits :: tokens =>
    (((number? digits).bind fun n => f (.numbered n)).map String.toList).getD ('$' :: digits) ++
      replaceFrom f seen tokens

/-- The text in which `f` replaces the placeholders it knows and all else stands as it was. -/
def replace (f : Placeholder → Option String) (sql : String) : String :=
  String.ofList (replaceFrom f 0 (scan sql))

/-- Writes every `?` as `$` and its position. -/
def number (sql : String) : String :=
  replace (fun
    | .positional n => some ("$" ++ Nat.repr n)
    | .numbered _ => none) sql

end Placeholder

end SqlSelect
