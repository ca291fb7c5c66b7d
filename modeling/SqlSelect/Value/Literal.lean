import SqlSelect.Value.Basic
import SqlSelect.Decimal.Layout
import SqlSelect.Decimal.Double

/-!
# Values as SQL literals

The text that stands for a value when a statement is shown with its values in place. It is meant for
logs: a statement is run with its values beside it.
-/

namespace SqlSelect

/-- Encloses a text in the given quote and writes every such quote inside it twice. -/
def enclose (quote : Char) (cs : List Char) : List Char :=
  quote :: (cs.flatMap fun c => if c = quote then [quote, quote] else [c]) ++ [quote]

/-- Numbers in literals are positional throughout and a whole number has no point. -/
def Value.literalLayout : Decimal.Layout where
  tie := .up
  positional := fun _ => true
  wholeEnd := ""

/-- The literal of a double. -/
def Value.floatLiteral (x : Float) : String :=
  match Decimal.Double.ofFloat x with
  | .notANumber => "NaN"
  | .infinite negative => if negative then "-inf" else "inf"
  | .zero negative => if negative then "-0" else "0"
  | .finite negative b =>
    (if negative then "-" else "") ++ Value.literalLayout.write b

/-- Two hexadecimal digits, capital letters. -/
def hexByte (byte : UInt8) : List Char :=
  [(Nat.digitChar (byte.toNat / 16)).toUpper, (Nat.digitChar (byte.toNat % 16)).toUpper]

/-- The literal of a value. -/
def Value.literal : Value → String
  | .null => "NULL"
  | .bool true => "TRUE"
  | .bool false => "FALSE"
  | .int n => Int.repr n.toInt
  | .float x => Value.floatLiteral x
  | .text s => String.ofList (enclose '\x27' s.toList)
  | .blob bytes => "X" ++ String.ofList ('\x27' :: (bytes.flatMap hexByte ++ ['\x27']))

end SqlSelect
