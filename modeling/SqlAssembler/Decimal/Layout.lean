import SqlAssembler.Decimal.Shortest

/-!
# Writing numbers

Three ways of writing a binary64 number are needed: *plain*, in SQL literals and
in values taken from query files; *dotted*, in messages, where a whole number
still shows that it is not an integer; and *JSON*. They share their digits and
differ only in the decisions that `Layout` lists.
-/

namespace SqlAssembler
namespace Decimal

structure Layout where
  positional : Int → Bool
  pointZero : Bool
  tie : Tie
  nan : String
  infinite : (negative : Bool) → String

def Layout.plain : Layout :=
  { positional := fun _ => true
    pointZero := false
    tie := .up
    nan := "NaN"
    infinite := fun negative => if negative then "-inf" else "inf" }

def Layout.dotted : Layout :=
  { Layout.plain with pointZero := true }

/-- The exponent form starts below `0.00001` and at `1e+16`; JSON has no words
for infinity. -/
def Layout.json : Layout :=
  { positional := fun exponent => -5 ≤ exponent && exponent < 16
    pointZero := true
    tie := .even
    nan := "null"
    infinite := fun _ => "null" }

def zeros (count : Nat) : String :=
  String.ofList (List.replicate count '0')

def digitText (n : Nat) : String :=
  String.ofList (Nat.toDigits 10 n)

namespace Layout

def pointAndRest (layout : Layout) (rest : List Char) : String :=
  if rest.isEmpty then if layout.pointZero then ".0" else ""
  else "." ++ String.ofList rest

def writePositional (layout : Layout) (digits : Digits) : String :=
  let text := Nat.toDigits 10 digits.coefficient
  if 0 ≤ digits.exponent then
    String.ofList text ++ zeros digits.exponent.toNat ++ layout.pointAndRest []
  else
    let places := (-digits.exponent).toNat
    if places < text.length then
      let whole := text.length - places
      String.ofList (text.take whole) ++ layout.pointAndRest (text.drop whole)
    else "0." ++ zeros (places - text.length) ++ String.ofList text

def writeExponent (digits : Digits) (exponent : Int) : String :=
  let text := Nat.toDigits 10 digits.coefficient
  let rest := text.drop 1
  let fraction := if rest.isEmpty then "" else "." ++ String.ofList rest
  let sign := if exponent < 0 then "-" else "+"
  String.ofList (text.take 1) ++ fraction ++ "e" ++ sign ++
    digitText exponent.natAbs

def writeDigits (layout : Layout) (digits : Digits) : String :=
  let exponent := digits.exponent + digitCount digits.coefficient - 1
  if layout.positional exponent then layout.writePositional digits
  else writeExponent digits exponent

def write (layout : Layout) (x : Float) : String :=
  match Value.ofFloat x with
  | .nan => layout.nan
  | .infinite negative => layout.infinite negative
  | .finite number =>
      let text := layout.writeDigits (shortest layout.tie number)
      if number.negative then "-" ++ text else text

end Layout
end Decimal
end SqlAssembler
