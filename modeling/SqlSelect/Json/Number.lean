import SqlSelect.Json.Basic

/-!
# The value of a JSON number

A whole number that fits 64 signed bits is an integer; every other number is a double. A double is
read from the digits that fit 64 unsigned bits, scaled by a power of ten; further digits only move
the scale. A number too large for a double has no value.
-/

namespace SqlSelect.Json

/-- Takes digits while the value fits 64 unsigned bits. -/
def absorbDigits (value : Nat) : List Nat → Nat × List Nat
  | [] => (value, [])
  | d :: ds =>
    if 10 * value + d < UInt64.size then absorbDigits (10 * value + d) ds else (value, d :: ds)

/-- The power of ten as a double, up to the largest one that a double holds. -/
def powerOfTen (n : Nat) : Float :=
  Float.ofScientific 1 false n

/-- `x · 10 ^ power`; none when it is too large. Small powers are applied in steps of the largest
power that a double holds. -/
def scaleByTen (x : Float) (power : Int) : Option Float :=
  if 0 ≤ power then
    if x == 0 then some x
    else if 308 < power then none
    else
      let y := x * powerOfTen power.toNat
      if y.isInf then none else some y
  else if -308 ≤ power then some (x / powerOfTen (-power).toNat)
  else if x == 0 then some x
  else scaleByTen (x / powerOfTen 308) (power + 308)
termination_by (-power).toNat

/-- The double closest to what the digits say, without its sign. -/
def Number.magnitude? (n : Number) : Option Float :=
  let (value, dropped) := absorbDigits 0 n.whole
  let (value, ignored) := absorbDigits value n.fraction
  let power : Int := dropped.length - (n.fraction.length - ignored.length : Nat)
  let significand := (UInt64.ofNat value).toFloat
  match n.exponent? with
  | none => scaleByTen significand power
  | some (negative, digits) =>
    let exponent := natOfDigits digits
    if 0x80000000 ≤ exponent then
      if value = 0 || negative then some 0 else none
    else scaleByTen significand (if negative then power - exponent else power + exponent)

/-- The double a number denotes. -/
def Number.toFloat? (n : Number) : Option Float :=
  n.magnitude?.map fun x => if n.negative then -x else x

/-- The integer a number denotes when it is written as one and fits 64 signed bits. A negative zero
is not an integer. -/
def Number.toInt64? (n : Number) : Option Int64 :=
  let value := natOfDigits n.whole
  if !n.isWhole then none
  else if n.negative then
    if 0 < value && value ≤ 0x8000000000000000 then some (Int64.ofInt (-value)) else none
  else if value < 0x8000000000000000 then some (Int64.ofNat value)
  else none

end SqlSelect.Json
