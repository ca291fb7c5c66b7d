import SqlSelect.Value.Basic
import SqlSelect.Decimal.Layout
import SqlSelect.Decimal.Double
import SqlSelect.Json.Number
import SqlSelect.Json.Reader

/-!
# Values as JSON

Values are written without a tag: a blob is an array of numbers, and a double that is not finite is
null. Reading takes the first kind of value that fits, so not every value is read back as it was.
-/

namespace SqlSelect

/-- Numbers in JSON are positional from a hundred-thousandth up to sixteen digits, and a whole
number keeps one digit after the point. -/
def Value.jsonLayout : Decimal.Layout where
  tie := .even
  positional := fun power => -5 ≤ power && power < 16
  wholeEnd := ".0"

/-- The JSON text of a double. -/
def Value.floatJson (x : Float) : String :=
  match Decimal.Double.ofFloat x with
  | .notANumber | .infinite _ => "null"
  | .zero negative => if negative then "-0.0" else "0.0"
  | .finite negative b =>
    (if negative then "-" else "") ++ Value.jsonLayout.write b

/-- The JSON text of a value. -/
def Value.toJson : Value → String
  | .null => "null"
  | .bool b => if b then "true" else "false"
  | .int n => Int.repr n.toInt
  | .float x => Value.floatJson x
  | .text s => Json.quote s
  | .blob bytes => "[" ++ String.intercalate "," (bytes.map fun b => Nat.repr b.toNat) ++ "]"

/-- A byte: a whole number from 0 to 255. -/
def Json.byte? : Json → Option UInt8
  | .number n =>
    let value := natOfDigits n.whole
    if n.isWhole && !n.negative && value < 256 then some (UInt8.ofNat value) else none
  | _ => none

/-- The first kind of value that fits: null, truth value, integer, double, text, bytes. -/
def Value.ofJson? : Json → Option Value
  | .null => some .null
  | .bool b => some (.bool b)
  | .number n =>
    match n.toInt64? with
    | some i => some (.int i)
    | none => n.toFloat?.map .float
  | .text s => s.map .text
  | .array items => (items.mapM Json.byte?).map .blob
  | .object _ => none

/-- Reads a value from a JSON document. -/
def Value.read? (document : String) : Option Value :=
  (Json.read? document).bind Value.ofJson?

end SqlSelect
