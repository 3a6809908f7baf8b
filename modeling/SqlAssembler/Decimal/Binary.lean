/-!
# Binary floating point as exact numbers

A finite binary64 number is a whole number of at most 53 bits times a power of
two. This module takes a number apart into that form and finds the binary64
number nearest to a fraction, so that everything else about decimal text can be
said in whole numbers.
-/

namespace SqlAssembler
namespace Decimal

structure Binary where
  negative : Bool
  mantissa : Nat
  exponent : Int
  deriving DecidableEq, Repr

inductive Value where
  | finite (number : Binary)
  | infinite (negative : Bool)
  | nan
  deriving DecidableEq, Repr

def twoTo (exponent : Int) : Nat :=
  Nat.pow 2 exponent.toNat

def tenTo (exponent : Int) : Nat :=
  Nat.pow 10 exponent.toNat

def leadingBit : Nat := 0x10000000000000

def signBit : Nat := 0x8000000000000000

def leastExponent : Int := -1074

def fullField : Nat := 2047

def Value.ofFloat (x : Float) : Value :=
  let bits := x.toBits.toNat
  let negative := decide (signBit ≤ bits)
  let field := bits / leadingBit % (fullField + 1)
  let fraction := bits % leadingBit
  if field = fullField then
    if fraction = 0 then .infinite negative else .nan
  else if field = 0 then .finite ⟨negative, fraction, leastExponent⟩
  else .finite ⟨negative, leadingBit + fraction, leastExponent + (field - 1)⟩

/-!
## The nearest number to a fraction
-/

def roundHalfEven (numerator denominator : Nat) : Nat :=
  let quotient := numerator / denominator
  let twice := 2 * (numerator % denominator)
  if denominator < twice ∨ (twice = denominator ∧ quotient % 2 = 1) then
    quotient + 1
  else quotient

def inUnits (numerator denominator : Nat) (exponent : Int) : Nat :=
  roundHalfEven (numerator * twoTo (-exponent)) (denominator * twoTo exponent)

/-- The exponent whose unit leaves 53 bits of the quotient before its point. -/
def unitExponent (numerator denominator : Nat) : Int :=
  let estimate : Int := (numerator.log2 : Int) - denominator.log2 - 52
  let fits :=
    denominator * twoTo estimate * leadingBit ≤ numerator * twoTo (-estimate)
  max (if fits then estimate else estimate - 1) leastExponent

/-- The binary64 number nearest to a fraction; beyond the largest one it is
infinite. -/
def nearest (negative : Bool) (numerator denominator : Nat) : Float :=
  let exponent := unitExponent numerator denominator
  let magnitude :=
    if numerator = 0 then 0
    else
      (exponent - leastExponent).toNat * leadingBit +
        inUnits numerator denominator exponent
  let bounded := min magnitude (fullField * leadingBit)
  Float.ofBits (UInt64.ofNat (if negative then signBit + bounded else bounded))

end Decimal
end SqlAssembler
