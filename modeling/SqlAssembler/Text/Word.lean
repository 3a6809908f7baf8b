/-!
# Names written without quotes

A plain name starts with an ASCII letter or an underscore and goes on with ASCII
letters, digits and underscores. Letters of other alphabets never count: a name
that holds one has to be quoted.
-/

namespace SqlAssembler
namespace Text

def isNameStart (c : Char) : Bool :=
  c = '_' || c.isAlpha

def isNameChar (c : Char) : Bool :=
  c = '_' || c.isAlphanum

def isPlainName : List Char → Bool
  | [] => false
  | c :: cs => isNameStart c && cs.all isNameChar

def upper (cs : List Char) : List Char :=
  cs.map Char.toUpper

end Text
end SqlAssembler
