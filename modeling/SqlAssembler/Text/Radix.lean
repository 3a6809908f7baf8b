/-!
# Digits of other bases

Digits from ten on are letters, in either case.
-/

namespace SqlAssembler
namespace Text

def digitIn? (base : Nat) (c : Char) : Option Nat :=
  let value :=
    if c.isDigit then c.toNat - '0'.toNat
    else if c.isLower then c.toNat - 'a'.toNat + 10
    else if c.isUpper then c.toNat - 'A'.toNat + 10
    else base
  if value < base then some value else none

def numberIn? (base : Nat) (cs : List Char) : Option Nat :=
  cs.foldlM
    (fun number c => (digitIn? base c).map fun digit => base * number + digit) 0

example : numberIn? 16 ['f', 'F', '0'] = some 4080 := by decide
example : numberIn? 8 ['1', '8'] = none := by decide

end Text
end SqlAssembler
