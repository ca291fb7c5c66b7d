/-!
# JSON documents

The value of a JSON document as it is written: fields keep their order and may repeat, numbers keep
their digits, and a text whose escapes do not pair up to characters has no value. What a reader
makes of repeated fields or of large numbers is its own affair.
-/

namespace SqlSelect

/-- A number as written. Digits are the numbers 0 to 9; `exponent?` holds the sign (`true` for a
minus) and the digits. -/
structure Json.Number where
  negative : Bool
  whole : List Nat
  fraction : List Nat
  exponent? : Option (Bool × List Nat)

/-- A JSON value. -/
inductive Json where
  | null
  | bool (value : Bool)
  | number (value : Json.Number)
  | text (value? : Option String)
  | array (items : List Json)
  | object (fields : List (Option String × Json))

namespace Json

/-- Whether a number has neither fraction nor exponent. -/
def Number.isWhole (n : Number) : Bool :=
  n.fraction.isEmpty && n.exponent?.isNone

/-- The value of a list of decimal digits. -/
def natOfDigits (digits : List Nat) : Nat :=
  digits.foldl (fun n d => 10 * n + d) 0

/-- The escape of one character inside a text. -/
def escapeChar (c : Char) : List Char :=
  if c = '"' then ['\\', '"']
  else if c = '\\' then ['\\', '\\']
  else if 0x20 ≤ c.toNat then [c]
  else match c.toNat with
    | 8 => ['\\', 'b']
    | 9 => ['\\', 't']
    | 10 => ['\\', 'n']
    | 12 => ['\\', 'f']
    | 13 => ['\\', 'r']
    | n => ['\\', 'u', '0', '0', Nat.digitChar (n / 16), Nat.digitChar (n % 16)]

/-- A text between quotes: the quote, the backslash and the controls are escaped. -/
def quote (text : String) : String :=
  String.ofList ('"' :: (text.toList.flatMap escapeChar ++ ['"']))

end Json

end SqlSelect
