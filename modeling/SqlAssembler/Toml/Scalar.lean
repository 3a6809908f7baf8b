import SqlAssembler.Text.Radix
import SqlAssembler.Toml.Basic

/-!
# Unquoted scalars in TOML

Booleans, numbers and dates stand without quotes and end where a blank, a
separator, a bracket or a comment begins. Underscores may separate digits. A
decimal integer has no leading zeros; the bases two, eight and sixteen are
marked by a prefix and take no sign. Integers are refused beyond 128 bits and
floats where they would be infinite.
-/

namespace SqlAssembler
namespace Toml

def joinDigits (isDigit : Char → Bool) : List Char → Option (List Char)
  | [] => none
  | [c] => if isDigit c then some [c] else none
  | c :: d :: rest =>
      if !isDigit c then none
      else if d = '_' then (joinDigits isDigit rest).map (c :: ·)
      else (joinDigits isDigit (d :: rest)).map (c :: ·)

def leastInteger : Int := -0x80000000000000000000000000000000

def integerLimit : Int := 0x100000000000000000000000000000000

def integer? (n : Int) : Option Toml :=
  if leastInteger ≤ n ∧ n < integerLimit then some (.integer n) else none

def readRadix (base : Nat) (cs : List Char) : Option Toml := do
  let digits ← joinDigits (fun c => (Text.digitIn? base c).isSome) cs
  let n ← Text.numberIn? base digits
  integer? n

def hasLeadingZero (digits : List Char) : Bool :=
  1 < digits.length && digits.head? = some '0'

def readExponent (cs : List Char) : Option Int := do
  let (sign, cs) := Decimal.takeSign cs
  let digits ← joinDigits Char.isDigit cs
  let size : Int := Decimal.ofDigits digits
  some (if sign = some '-' then -size else size)

def float? (numeral : Decimal.Numeral) : Option Toml :=
  let x := numeral.toFloat
  if x.isFinite then some (.float x) else none

def isExponentMark (c : Char) : Bool :=
  c = 'e' || c = 'E'

def readDecimal (negative : Bool) (cs : List Char) : Option Toml := do
  let mantissa := cs.takeWhile fun c => !isExponentMark c
  let afterMantissa := cs.dropWhile fun c => !isExponentMark c
  let whole ← joinDigits Char.isDigit (mantissa.takeWhile (· ≠ '.'))
  if hasLeadingZero whole then none
  else
    let fraction ← match mantissa.dropWhile (· ≠ '.') with
      | [] => some none
      | _ :: digits => (joinDigits Char.isDigit digits).map some
    let exponent ← match afterMantissa with
      | [] => some none
      | _ :: digits => (readExponent digits).map some
    if fraction.isNone ∧ exponent.isNone then
      let n : Int := Decimal.ofDigits whole
      integer? (if negative then -n else n)
    else float? ⟨negative, whole, fraction.getD [], exponent.getD 0⟩

def readNumber (cs : List Char) : Option Toml :=
  match cs with
  | '0' :: 'x' :: digits => readRadix 16 digits
  | '0' :: 'o' :: digits => readRadix 8 digits
  | '0' :: 'b' :: digits => readRadix 2 digits
  | _ =>
      let (sign, cs) := Decimal.takeSign cs
      let negative := sign = some '-'
      if cs = ['i', 'n', 'f'] then
        some (.float (if negative then -1.0 / 0.0 else 1.0 / 0.0))
      else if cs = ['n', 'a', 'n'] then some (.undefined negative)
      else readDecimal negative cs

def isScalarEnd (c : Char) : Bool :=
  c = ' ' || c = '\t' || c = '\n' || c = '\r' || c = ',' || c = ']' ||
    c = '\x7d' || c = '#'

def splitScalar (cs : List Char) : List Char × List Char :=
  let word := cs.takeWhile fun c => !isScalarEnd c
  let rest := cs.dropWhile fun c => !isScalarEnd c
  match takeDate word, rest with
  | some (_, []), ' ' :: c :: tail =>
      if c.isDigit then
        let time := (c :: tail).takeWhile fun c => !isScalarEnd c
        (word ++ ' ' :: time, (c :: tail).dropWhile fun c => !isScalarEnd c)
      else (word, rest)
  | _, _ => (word, rest)

def readScalar (cs : List Char) : Option Toml :=
  if cs = ['t', 'r', 'u', 'e'] then some (.boolean true)
  else if cs = ['f', 'a', 'l', 's', 'e'] then some (.boolean false)
  else
    match DateTime.read? cs with
    | some value => some (.dateTime value)
    | none => readNumber cs

end Toml
end SqlAssembler
