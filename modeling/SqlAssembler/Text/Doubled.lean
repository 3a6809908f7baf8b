/-!
# Quoting by doubling

A text is enclosed in a quote character, and each quote inside it is written
twice. Backticks enclose identifiers this way and single quotes enclose string
literals.
-/

namespace SqlAssembler
namespace Text

def backtick : Char := '\x60'

def doubled (quote : Char) : List Char → List Char
  | [] => []
  | c :: cs =>
      if c = quote then c :: c :: doubled quote cs else c :: doubled quote cs

def enclosed (quote : Char) (text : String) : String :=
  String.ofList (quote :: (doubled quote text.toList ++ [quote]))

theorem doubled_append (quote : Char) (left right : List Char) :
    doubled quote (left ++ right) =
      doubled quote left ++ doubled quote right := by
  induction left with
  | nil => rfl
  | cons c cs ih => by_cases h : c = quote <;> simp [doubled, h, ih]

theorem count_doubled (quote x : Char) (cs : List Char) :
    (doubled quote cs).count x = (if x = quote then 2 else 1) * cs.count x := by
  induction cs with
  | nil => rfl
  | cons c cs ih =>
      by_cases h : c = quote <;> by_cases hx : x = c <;> grind [doubled]

end Text
end SqlAssembler
