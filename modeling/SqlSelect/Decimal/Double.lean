import SqlSelect.Decimal.Shortest

/-!
# The parts of a double

A finite double other than zero is a sign and a positive binary number; the rest are the zeros, the
infinities and the values that are not numbers.
-/

namespace SqlSelect.Decimal

/-- What a double stands for. -/
inductive Double where
  | notANumber
  | infinite (negative : Bool)
  | zero (negative : Bool)
  | finite (negative : Bool) (magnitude : Binary)

/-- Reads sign, exponent field and fraction field off the 64 bits. -/
def Double.ofBits (bits : Nat) : Double :=
  let negative := bits / 0x8000000000000000 % 2 == 1
  let exponent : Nat := bits / 0x10000000000000 % 0x800
  let fraction := bits % 0x10000000000000
  if exponent = 2047 then
    if fraction = 0 then .infinite negative else .notANumber
  else if exponent = 0 then
    if fraction = 0 then .zero negative else .finite negative ⟨fraction, -1074, false⟩
  else
    .finite negative
      ⟨0x10000000000000 + fraction, (exponent : Int) - 1075, fraction == 0 && 1 < exponent⟩

def Double.ofFloat (x : Float) : Double :=
  .ofBits x.toBits.toNat

end SqlSelect.Decimal
