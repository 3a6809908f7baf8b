/-!
# Blank characters

Callers may surround a column, a connector or an alias with blanks. A blank is a
character with the `White_Space` property of the Unicode standard, so a no-break
space is trimmed and a zero-width space is not.
-/

namespace SqlAssembler
namespace Text

/-- The ranges of code points with the `White_Space` property: twenty-five
characters. -/
def blankRanges : List (Nat × Nat) :=
  [(0x09, 0x0D), (0x20, 0x20), (0x85, 0x85), (0xA0, 0xA0), (0x1680, 0x1680),
    (0x2000, 0x200A), (0x2028, 0x2029), (0x202F, 0x202F), (0x205F, 0x205F),
    (0x3000, 0x3000)]

def inRanges (ranges : List (Nat × Nat)) (c : Char) : Bool :=
  ranges.any fun range => range.1 ≤ c.toNat && c.toNat ≤ range.2

def isBlank (c : Char) : Bool :=
  inRanges blankRanges c

example : (blankRanges.map fun range => range.2 - range.1 + 1).sum = 25 := by
  decide

def trimStart (cs : List Char) : List Char :=
  cs.dropWhile isBlank

def trimEnd (cs : List Char) : List Char :=
  (cs.reverse.dropWhile isBlank).reverse

def trim (cs : List Char) : List Char :=
  trimEnd (trimStart cs)

end Text
end SqlAssembler
