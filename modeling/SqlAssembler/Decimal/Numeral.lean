import SqlAssembler.Decimal.Binary

/-!
# Reading decimal numerals

A numeral is a row of digits, perhaps with a point and an exponent. It is read
as the binary64 number nearest to its exact value, however many digits it has.
-/

namespace SqlAssembler
namespace Decimal

def digitValue (c : Char) : Nat :=
  c.toNat - '0'.toNat

def ofDigits (cs : List Char) : Nat :=
  cs.foldl (fun n c => 10 * n + digitValue c) 0

structure Numeral where
  negative : Bool
  whole : List Char
  fraction : List Char
  exponent : Int
  deriving DecidableEq, Repr

/-- An exponent this far out already gives zero or infinity, whatever the
digits. -/
def farExponent : Nat := 400

def Numeral.toFloat (numeral : Numeral) : Float :=
  let digits := (numeral.whole ++ numeral.fraction).dropWhile (· = '0')
  let coefficient := ofDigits digits
  let exponent := numeral.exponent - numeral.fraction.length
  if coefficient = 0 then nearest numeral.negative 0 1
  else if (farExponent : Int) < exponent + digits.length then
    nearest numeral.negative (tenTo farExponent) 1
  else if exponent + digits.length < -(farExponent : Int) then
    nearest numeral.negative 0 1
  else
    nearest numeral.negative (coefficient * tenTo exponent) (tenTo (-exponent))

def takeSign : List Char → Option Char × List Char
  | '+' :: rest => (some '+', rest)
  | '-' :: rest => (some '-', rest)
  | rest => (none, rest)

def takeExponent : List Char → Option (Int × List Char)
  | [] => some (0, [])
  | c :: rest =>
      if c = 'e' ∨ c = 'E' then
        let (sign, digits) := takeSign rest
        match digits.span Char.isDigit with
        | ([], _) => none
        | (digits, rest) =>
            let magnitude : Int := ofDigits digits
            some (if sign = some '-' then -magnitude else magnitude, rest)
      else some (0, c :: rest)

def takeFraction : List Char → List Char × List Char
  | '.' :: rest => rest.span Char.isDigit
  | rest => ([], rest)

def Numeral.ofText? (cs : List Char) : Option Numeral :=
  let (sign, rest) := takeSign cs
  let (whole, rest) := rest.span Char.isDigit
  let (fraction, rest) := takeFraction rest
  if whole.isEmpty && fraction.isEmpty then none
  else match takeExponent rest with
    | some (exponent, []) => some ⟨sign = some '-', whole, fraction, exponent⟩
    | _ => none

def floatOfText? (text : String) : Option Float :=
  let (sign, word) := takeSign text.toList
  let word := String.ofList (word.map Char.toLower)
  if word = "inf" ∨ word = "infinity" then
    some (Numeral.toFloat ⟨sign = some '-', ['1'], [], 2 * farExponent⟩)
  else if word = "nan" then some (0.0 / 0.0)
  else (Numeral.ofText? text.toList).map Numeral.toFloat

end Decimal
end SqlAssembler
