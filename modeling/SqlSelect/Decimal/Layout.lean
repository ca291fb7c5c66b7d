import SqlSelect.Decimal.Shortest

/-!
# Writing digits

A layout says when digits are written in positional notation and how a whole number ends. Outside
the positional range the first digit stands before the point and the power of ten follows with its
sign.
-/

namespace SqlSelect.Decimal

/-- How a positive number is written. -/
structure Layout where
  /-- Which way a value between two shortest candidates goes. -/
  tie : Tie
  /-- Whether a number whose first digit has this power of ten is written positionally. -/
  positional : Int → Bool
  /-- What follows a whole number in positional notation. -/
  wholeEnd : String

/-- The digits with the point in its place, zeros filling the gap. -/
def Digits.positional (d : Digits) (wholeEnd : String) : String :=
  if d.point ≤ 0 then
    "0." ++ String.ofList (List.replicate (-d.point).toNat '0' ++ d.digits)
  else
    let whole := d.point.toNat
    if d.digits.length ≤ whole then
      String.ofList (d.digits ++ List.replicate (whole - d.digits.length) '0') ++ wholeEnd
    else
      String.ofList (d.digits.take whole) ++ "." ++ String.ofList (d.digits.drop whole)

/-- One digit, the other digits after the point, the power of ten with its sign. -/
def Digits.scientific (d : Digits) : String :=
  let power := d.point - 1
  let mantissa := match d.digits with
    | [] => "0"
    | [c] => String.ofList [c]
    | c :: cs => String.ofList (c :: '.' :: cs)
  mantissa ++ (if power < 0 then "e-" else "e+") ++ Nat.repr power.natAbs

/-- The text of a positive number. -/
def Layout.write (layout : Layout) (b : Binary) : String :=
  let d := b.shortest layout.tie
  if layout.positional (d.point - 1) then d.positional layout.wholeEnd else d.scientific

end SqlSelect.Decimal
