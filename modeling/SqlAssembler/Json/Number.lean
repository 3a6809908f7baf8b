import SqlAssembler.Json.Basic
import SqlAssembler.Decimal.Numeral

/-!
# Numbers in JSON texts

A number without point and exponent stays an integer when it fits 64 bits,
except for minus zero. Any other number becomes a binary64 number, in three
roundings: its digits are gathered into a 64-bit integer for as long as they
fit, that integer is rounded to binary64, and the result is multiplied or
divided by a rounded power of ten. The last digit can therefore differ from that
of the nearest number. A product beyond the largest number is refused.
-/

namespace SqlAssembler
namespace Json

def wordLimit : Nat := 0x10000000000000000

/-- Digits gathered so far, and how many digits of the integer part had to be
left out. -/
structure Gathered where
  significand : Nat
  omitted : Nat

def gatherWhole (gathered : Gathered) : List Char → Gathered
  | [] => gathered
  | c :: cs =>
      let next := 10 * gathered.significand + Decimal.digitValue c
      if gathered.omitted = 0 ∧ next < wordLimit then gatherWhole ⟨next, 0⟩ cs
      else gatherWhole ⟨gathered.significand, gathered.omitted + 1⟩ cs

def gatherFraction (significand : Nat) : List Char → Nat × Nat
  | [] => (significand, 0)
  | c :: cs =>
      let next := 10 * significand + Decimal.digitValue c
      if next < wordLimit then
        let (result, count) := gatherFraction next cs
        (result, count + 1)
      else (significand, 0)

def powerOfTen (n : Nat) : Float :=
  Decimal.nearest false (Decimal.tenTo n) 1

def greatestPower : Nat := 308

/-- `significand * 10 ^ exponent` in binary64 steps; `none` if a product is
infinite. -/
def scaled (significand : Nat) (exponent : Int) : Option Float :=
  let x := Decimal.nearest false significand 1
  if significand = 0 then some x
  else if 0 ≤ exponent then
    if greatestPower < exponent.toNat then none
    else
      let product := x * powerOfTen exponent.toNat
      if product.isFinite then some product else none
  else
    let places := (-exponent).toNat
    if places ≤ greatestPower then some (x / powerOfTen places)
    else if places ≤ 2 * greatestPower then
      some (x / powerOfTen greatestPower / powerOfTen (places - greatestPower))
    else some 0.0

def fractionalValue (numeral : Decimal.Numeral) : Option Float :=
  let whole := gatherWhole ⟨0, 0⟩ numeral.whole
  let (significand, places) := gatherFraction whole.significand numeral.fraction
  let value := scaled significand (numeral.exponent + whole.omitted - places)
  value.map fun x => if numeral.negative then -x else x

def numberValue (numeral : Decimal.Numeral) (plain : Bool) : Option Json :=
  let magnitude := Decimal.ofDigits numeral.whole
  if plain && !numeral.negative && magnitude < wordLimit then
    some (.int magnitude)
  else if plain && numeral.negative && 0 < magnitude &&
      magnitude ≤ wordLimit / 2 then
    some (.int (-magnitude))
  else (fractionalValue numeral).map .float

end Json
end SqlAssembler
