import SqlAssembler.Decimal.Binary

/-!
# The fewest digits that read back

A binary64 number stands for every real number nearer to it than to its
neighbours, and for the two ends of that interval when its mantissa is even. Its
shortest decimal form is found by trying grids of one digit, two digits and so
on up to seventeen: on each grid only the two points around the number can lie
in the interval, the first grid with such a point wins, and of two points the
nearer is taken.
-/

namespace SqlAssembler
namespace Decimal

structure Digits where
  coefficient : Nat
  exponent : Int
  deriving DecidableEq, Repr

inductive Tie where
  | even
  | up
  deriving DecidableEq, Repr

def digitCount (n : Nat) : Nat :=
  (Nat.toDigits 10 n).length

def leadingExponent (numerator denominator : Nat) : Int :=
  if denominator ≤ numerator then digitCount (numerator / denominator) - 1
  else
    let whole := denominator / numerator
    let count := digitCount whole
    if whole = tenTo (count - 1) ∧ denominator % numerator = 0 then
      1 - (count : Int)
    else -(count : Int)

/-- A number with the interval it stands for, all in quarters of its last binary
place. -/
structure Interval where
  low : Nat
  middle : Nat
  high : Nat
  closed : Bool
  exponent : Int

def Interval.of (number : Binary) : Interval :=
  let below :=
    if number.mantissa = leadingBit ∧ leastExponent < number.exponent then 1
    else 2
  { low := 4 * number.mantissa - below
    middle := 4 * number.mantissa
    high := 4 * number.mantissa + 2
    closed := number.mantissa % 2 = 0
    exponent := number.exponent - 2 }

/-- The better of the two points of the grid `10 ^ place` around the number, if
one is inside. -/
def Interval.onGrid (interval : Interval) (tie : Tie) (place : Int) :
    Option Nat :=
  let binary := twoTo interval.exponent * tenTo (-place)
  let decimal := tenTo place * twoTo (-interval.exponent)
  let middle := interval.middle * binary
  let below := middle / decimal
  let inside (n : Nat) : Bool :=
    if interval.closed then
      interval.low * binary ≤ n * decimal &&
        n * decimal ≤ interval.high * binary
    else
      interval.low * binary < n * decimal &&
        n * decimal < interval.high * binary
  match inside below, inside (below + 1) with
  | false, false => none
  | true, false => some below
  | false, true => some (below + 1)
  | true, true =>
      let left := middle - below * decimal
      let right := (below + 1) * decimal - middle
      if left < right then some below
      else if right < left then some (below + 1)
      else match tie with
        | .up => some (below + 1)
        | .even => if below % 2 = 0 then some below else some (below + 1)

def Digits.normalize : Nat → Nat → Int → Digits
  | 0, coefficient, exponent => ⟨coefficient, exponent⟩
  | steps + 1, coefficient, exponent =>
      if coefficient % 10 = 0 ∧ coefficient ≠ 0 then
        normalize steps (coefficient / 10) (exponent + 1)
      else ⟨coefficient, exponent⟩

def Interval.firstHit (interval : Interval) (tie : Tie) : Nat → Int → Digits
  | 0, place => ⟨interval.middle, place⟩
  | steps + 1, place =>
      match interval.onGrid tie place with
      | some n => Digits.normalize 20 n place
      | none => interval.firstHit tie steps (place - 1)

def shortest (tie : Tie) (number : Binary) : Digits :=
  if number.mantissa = 0 then ⟨0, 0⟩
  else
    let place := leadingExponent (number.mantissa * twoTo number.exponent)
      (twoTo (-number.exponent))
    (Interval.of number).firstHit tie 17 place

end Decimal
end SqlAssembler
