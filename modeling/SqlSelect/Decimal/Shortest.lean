/-!
# The shortest decimal of a binary number

A positive binary number `mantissa · 2 ^ exponent` stands for every real that rounds to it. The
shortest decimal is the one with the fewest digits among those reals, and of two with equally few
digits the nearer. All comparisons are between natural numbers, so nothing is rounded on the way.
-/

namespace SqlSelect.Decimal

/-- A positive number `mantissa · 2 ^ exponent`. The neighbour below is half as far away as the
one above when `closeBelow` holds. -/
structure Binary where
  mantissa : Nat
  exponent : Int
  closeBelow : Bool

/-- Where a value exactly between two candidates goes. -/
inductive Tie where
  | up
  | even

/-- The digits of a positive number, without zeros at either end: the value is
`0.d₁d₂… · 10 ^ point`. -/
structure Digits where
  digits : List Char
  point : Int

namespace Binary

/-- Numerators over one denominator: `x · 2 ^ (exponent - 2)` compares with `d · 10 ^ place` as
`x * (b.scale place).1` compares with `d * (b.scale place).2`. -/
def scale (b : Binary) (place : Int) : Nat × Nat :=
  let twos := b.exponent - 2
  (Nat.pow 2 twos.toNat * Nat.pow 10 (-place).toNat,
    Nat.pow 10 place.toNat * Nat.pow 2 (-twos).toNat)

/-- Whether `d · 10 ^ place` rounds to the number: it lies between the two midpoints, which belong
to the number when its mantissa is even. -/
def reads (b : Binary) (place : Int) (d : Nat) : Bool :=
  let (two, ten) := b.scale place
  let low := (4 * b.mantissa - if b.closeBelow then 1 else 2) * two
  let high := (4 * b.mantissa + 2) * two
  let x := d * ten
  if b.mantissa % 2 == 0 then low ≤ x && x ≤ high else low < x && x < high

/-- Of the two multiples of `10 ^ place` around the number, the nearest one that rounds to it. -/
def nearest? (b : Binary) (tie : Tie) (place : Int) : Option Nat :=
  let (two, ten) := b.scale place
  let x := 4 * b.mantissa * two
  let d := x / ten
  match b.reads place d, b.reads place (d + 1) with
  | true, true =>
    let below := x - d * ten
    let above := (d + 1) * ten - x
    if below < above then some d
    else if above < below then some (d + 1)
    else match tie with
      | .up => some (d + 1)
      | .even => if d % 2 == 0 then some d else some (d + 1)
  | true, false => some d
  | false, true => some (d + 1)
  | false, false => none

/-- A power of ten above the number, from its number of binary digits. -/
def placeAbove (b : Binary) : Int :=
  (b.mantissa.log2 + b.exponent + 1) * 30103 / 100000 + 1

/-- The multiple of a power of ten that is kept: the coarsest grid with a hit. Seventeen digits
always suffice, and the first grid tried may be two places too coarse. -/
def shortestMultiple (b : Binary) (tie : Tie) : Nat × Int :=
  ((List.range 21).findSome? fun (n : Nat) =>
    let place := b.placeAbove - n
    (b.nearest? tie place).map (·, place)).getD (0, 0)

/-- The shortest digits that round to the number. -/
def shortest (b : Binary) (tie : Tie) : Digits :=
  let (d, place) := b.shortestMultiple tie
  let digits := Nat.toDigits 10 d
  { digits := (digits.reverse.dropWhile (· == '0')).reverse
    point := digits.length + place }

end Binary

end SqlSelect.Decimal
