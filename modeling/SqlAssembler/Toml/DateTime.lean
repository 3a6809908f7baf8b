import SqlAssembler.Decimal.Numeral

/-!
# Dates and times in TOML

A date, a time of day, or both, and then perhaps the distance from universal
time. Seconds may be left out. A fraction of a second is kept to nine places.
Only real days are dates; a minute may have a sixty-first second.
-/

namespace SqlAssembler
namespace Toml

structure Date where
  year : Nat
  month : Nat
  day : Nat
  deriving DecidableEq, Repr

structure Time where
  hour : Nat
  minute : Nat
  second : Option Nat
  nanosecond : Option Nat
  deriving DecidableEq, Repr

inductive Offset where
  | universal
  | minutes (distance : Int)
  deriving DecidableEq, Repr

inductive DateTime where
  | date (day : Date)
  | time (clock : Time)
  | both (day : Date) (clock : Time) (offset : Option Offset)
  deriving DecidableEq, Repr

/-!
## Writing
-/

def padded (width n : Nat) : String :=
  let digits := Nat.toDigits 10 n
  String.ofList (List.replicate (width - digits.length) '0' ++ digits)

def Date.text (date : Date) : String :=
  padded 4 date.year ++ "-" ++ padded 2 date.month ++ "-" ++ padded 2 date.day

def fractionText (nanosecond : Nat) : String :=
  let places := (padded 9 nanosecond).toList.reverse.dropWhile (· = '0')
  if places.isEmpty then ".0" else "." ++ String.ofList places.reverse

def Time.text (time : Time) : String :=
  let second := (time.second.map fun second => ":" ++ padded 2 second).getD ""
  padded 2 time.hour ++ ":" ++ padded 2 time.minute ++ second ++
    (time.nanosecond.map fractionText).getD ""

def Offset.text : Offset → String
  | universal => "Z"
  | minutes distance =>
      let sign := if distance < 0 then "-" else "+"
      let size := distance.natAbs
      sign ++ padded 2 (size / 60) ++ ":" ++ padded 2 (size % 60)

def DateTime.text : DateTime → String
  | date day => day.text
  | time clock => clock.text
  | both day clock offset =>
      day.text ++ "T" ++ clock.text ++ (offset.map Offset.text).getD ""

/-!
## Reading
-/

def isLeapYear (year : Nat) : Bool :=
  year % 4 = 0 && (year % 100 != 0 || year % 400 = 0)

def daysInMonth (year month : Nat) : Nat :=
  if month = 2 then if isLeapYear year then 29 else 28
  else if month = 4 ∨ month = 6 ∨ month = 9 ∨ month = 11 then 30
  else 31

def takeFixed (count : Nat) (cs : List Char) : Option (Nat × List Char) :=
  let digits := cs.take count
  if digits.length = count ∧ digits.all Char.isDigit then
    some (Decimal.ofDigits digits, cs.drop count)
  else none

def takeOneOf (allowed : List Char) : List Char → Option (List Char)
  | [] => none
  | c :: cs => if allowed.contains c then some cs else none

def takeDate (cs : List Char) : Option (Date × List Char) := do
  let (year, cs) ← takeFixed 4 cs
  let cs ← takeOneOf ['-'] cs
  let (month, cs) ← takeFixed 2 cs
  let cs ← takeOneOf ['-'] cs
  let (day, cs) ← takeFixed 2 cs
  if 1 ≤ month ∧ month ≤ 12 ∧ 1 ≤ day ∧ day ≤ daysInMonth year month then
    some (⟨year, month, day⟩, cs)
  else none

def takeNanosecond (cs : List Char) : Option (Option Nat × List Char) :=
  match cs with
  | '.' :: rest =>
      let places := rest.takeWhile Char.isDigit
      let kept := places.take 9
      if places.isEmpty then none
      else
        let nanosecond :=
          Decimal.ofDigits kept * Decimal.tenTo (9 - kept.length)
        some (some nanosecond, rest.dropWhile Char.isDigit)
  | _ => some (none, cs)

def takeSecond (cs : List Char) :
    Option (Option Nat × Option Nat × List Char) :=
  match cs with
  | ':' :: rest => do
      let (second, rest) ← takeFixed 2 rest
      let (nanosecond, rest) ← takeNanosecond rest
      if second ≤ 60 then some (some second, nanosecond, rest) else none
  | _ => some (none, none, cs)

def takeTime (cs : List Char) : Option (Time × List Char) := do
  let (hour, cs) ← takeFixed 2 cs
  let cs ← takeOneOf [':'] cs
  let (minute, cs) ← takeFixed 2 cs
  let (second, nanosecond, cs) ← takeSecond cs
  if hour ≤ 23 ∧ minute ≤ 59 then some (⟨hour, minute, second, nanosecond⟩, cs)
  else none

def greatestOffset : Nat := 24 * 60

def readOffset : List Char → Option (Option Offset)
  | [] => some none
  | c :: cs =>
      if c = 'Z' ∨ c = 'z' then
        if cs.isEmpty then some (some .universal) else none
      else if c = '+' ∨ c = '-' then do
        let (hours, cs) ← takeFixed 2 cs
        let cs ← takeOneOf [':'] cs
        let (minutes, cs) ← takeFixed 2 cs
        let distance := hours * 60 + minutes
        if cs.isEmpty ∧ minutes ≤ 59 ∧ distance ≤ greatestOffset then
          some (some (.minutes (if c = '-' then -distance else distance)))
        else none
      else none

def readTime (cs : List Char) : Option DateTime :=
  match takeTime cs with
  | some (time, []) => some (.time time)
  | _ => none

def readDate (cs : List Char) : Option DateTime :=
  match takeDate cs with
  | none => none
  | some (date, []) => some (.date date)
  | some (date, rest) => do
      let rest ← takeOneOf ['T', 't', ' '] rest
      let (time, rest) ← takeTime rest
      let offset ← readOffset rest
      some (.both date time offset)

def DateTime.read? (cs : List Char) : Option DateTime :=
  (readDate cs).or (readTime cs)

end Toml
end SqlAssembler
