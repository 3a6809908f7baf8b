import SqlAssembler.Text.Blank
import SqlAssembler.Text.Hidden

/-!
# Text shown in messages

A message shows a text between double quotes. Double quotes and backslashes are
escaped, NUL, tab and the two line ends have short escapes, and any other
character without a visible form is written as its code point.
-/

namespace SqlAssembler
namespace Text

def isHidden (c : Char) : Bool :=
  let ranges :=
    if c.toNat < 0x3000 then hiddenBelow3000
    else if c.toNat < 0x10000 then hiddenBelow10000
    else hiddenSupplementary
  inRanges ranges c

def codePointEscape (c : Char) : List Char :=
  ['\\', 'u', '\x7b'] ++ Nat.toDigits 16 c.toNat ++ ['\x7d']

def shownChar (c : Char) : List Char :=
  if c = '"' ∨ c = '\\' then ['\\', c]
  else if c = '\x00' then ['\\', '0']
  else if c = '\t' then ['\\', 't']
  else if c = '\n' then ['\\', 'n']
  else if c = '\r' then ['\\', 'r']
  else if isHidden c then codePointEscape c
  else [c]

def shown (text : String) : String :=
  String.ofList ('"' :: (text.toList.flatMap shownChar ++ ['"']))

end Text
end SqlAssembler
