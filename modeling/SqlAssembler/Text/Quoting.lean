import SqlAssembler.Text.Doubled

/-!
# Quoted stretches of SQL

Single quotes, double quotes and backticks enclose text in which no other
character has a meaning of its own. `Quoting` says where in such a stretch a
reader stands. In which of the three a backslash takes the meaning from the next
character is a parameter, because the readers of SQL do not agree on it.
-/

namespace SqlAssembler
namespace Text

inductive Quoting where
  | outside
  | inside (quote : Char)
  | escaped (quote : Char)
  deriving DecidableEq, Repr

def isQuote (c : Char) : Bool :=
  c = '\'' || c = '"' || c = backtick

namespace Quoting

def step (escapes : Char → Bool) : Quoting → Char → Quoting
  | outside, c => if isQuote c then inside c else outside
  | inside quote, c =>
      if c = '\\' ∧ escapes quote then escaped quote
      else if c = quote then outside
      else inside quote
  | escaped quote, _ => inside quote

def run (escapes : Char → Bool) (start : Quoting) (cs : List Char) : Quoting :=
  cs.foldl (step escapes) start

@[simp]
theorem run_nil (escapes : Char → Bool) (start : Quoting) :
    run escapes start [] = start :=
  rfl

@[simp]
theorem run_cons (escapes : Char → Bool) (start : Quoting) (c : Char)
    (cs : List Char) :
    run escapes start (c :: cs) = run escapes (step escapes start c) cs :=
  rfl

theorem run_append (escapes : Char → Bool) (start : Quoting)
    (left right : List Char) : run escapes start (left ++ right) =
      run escapes (run escapes start left) right := by
  simp [run]

end Quoting
end Text
end SqlAssembler
