/-!
# Written durations

Times are counted in milliseconds. Under a second a duration is written in
milliseconds, from a second on in seconds with as many decimal places as it
needs, and nothing at all is `0ns`.
-/

namespace SqlAssembler
namespace Text

def thousandths (n : Nat) : String :=
  if n = 0 then ""
  else if n % 100 = 0 then s!".{n / 100}"
  else if n % 10 = 0 then s!".{n / 100}{n / 10 % 10}"
  else s!".{n / 100}{n / 10 % 10}{n % 10}"

def durationText (milliseconds : Nat) : String :=
  if milliseconds = 0 then "0ns"
  else if milliseconds < 1000 then s!"{milliseconds}ms"
  else s!"{milliseconds / 1000}" ++ thousandths (milliseconds % 1000) ++ "s"

example : durationText 20 = "20ms" := by decide
example : durationText 1500 = "1.5s" := by decide
example : durationText 61001 = "61.001s" := by decide
example : durationText 86400000 = "86400s" := by decide

end Text
end SqlAssembler
