import SqlAssembler.Decimal.Layout
import SqlAssembler.Toml.Basic

/-!
# Writing TOML

A value is written on one line, unless one of its strings has several lines. A
string takes the form that needs the fewest escapes: basic if it needs none,
else literal, else one of the multi-line forms. A table is written with its
keys sorted, and with its plain values in front of arrays of tables and of
tables.
-/

namespace SqlAssembler
namespace Toml

/-!
## Strings
-/

def isControl (c : Char) : Bool :=
  (c.toNat < 0x20 || c.toNat = 0x7F) && c ≠ '\t' && c ≠ '\n'

def longestRun (wanted : Char) (current : Nat) : List Char → Nat
  | [] => current
  | c :: cs =>
      if c = wanted then longestRun wanted (current + 1) cs
      else max current (longestRun wanted 0 cs)

structure StringForm where
  quote : Char
  multiline : Bool
  deriving DecidableEq, Repr

def stringForm (cs : List Char) : StringForm :=
  let broken := cs.contains '\n'
  let control := cs.any isControl
  let escaped := control || cs.contains '\\'
  if !escaped && !cs.contains '"' && !broken then ⟨'"', false⟩
  else if !control && !cs.contains '\'' && !broken then ⟨'\'', false⟩
  else if !escaped && longestRun '"' 0 cs ≤ 2 then ⟨'"', true⟩
  else if !control && longestRun '\'' 0 cs ≤ 2 then ⟨'\'', true⟩
  else ⟨'"', broken⟩

def hexDigit (n : Nat) : Char :=
  ((Nat.toDigits 16 n).headD '0').toUpper

def escape (multiline : Bool) (c : Char) : List Char :=
  if c = '\\' then ['\\', '\\']
  else if c = '\x08' then ['\\', 'b']
  else if c = '\t' then ['\\', 't']
  else if c = '\n' then if multiline then ['\n'] else ['\\', 'n']
  else if c = '\x0c' then ['\\', 'f']
  else if c = '\r' then ['\\', 'r']
  else if isControl c then
    ['\\', 'u', '0', '0', hexDigit (c.toNat / 16), hexDigit (c.toNat % 16)]
  else [c]

/-- The text between the quotes of a basic string. On several lines two quotes
in a row may stand unescaped; `held` of them stand right before the text. -/
def escapeAll (multiline : Bool) (held : Nat) : List Char → List Char
  | [] => []
  | c :: cs =>
      if c = '"' then
        if multiline ∧ held < 2 then c :: escapeAll multiline (held + 1) cs
        else '\\' :: c :: escapeAll multiline 0 cs
      else escape multiline c ++ escapeAll multiline 0 cs

def writeForm (form : StringForm) (cs : List Char) : String :=
  let delimiter := List.replicate (if form.multiline then 3 else 1) form.quote
  let opening := if form.multiline ∧ cs.contains '\n' then ['\n'] else []
  let text := if form.quote = '"' then escapeAll form.multiline 0 cs else cs
  String.ofList (delimiter ++ opening ++ text ++ delimiter)

def writeString (text : String) : String :=
  writeForm (stringForm text.toList) text.toList

def writeKey (key : String) : String :=
  let cs := key.toList
  if !cs.isEmpty && cs.all isBareKeyChar then key
  else
    let form := stringForm cs
    writeForm (if form.multiline then ⟨'"', false⟩ else form) cs

/-!
## Values
-/

/-- Where an entry stands in its table: plain values first, then arrays that
hold tables, then tables. -/
def rank : Toml → Nat
  | table _ => 2
  | array items =>
      let isTable : Toml → Bool
        | table _ => true
        | _ => false
      if items.any isTable then 1 else 0
  | _ => 0

structure Written where
  rank : Nat
  key : String
  value : String

def Written.le (left right : Written) : Bool :=
  left.rank < right.rank || (left.rank = right.rank && left.key ≤ right.key)

def writeTable (entries : List Written) : String :=
  if entries.isEmpty then "\x7b\x7d"
  else
    let texts := (entries.mergeSort Written.le).map fun entry =>
      writeKey entry.key ++ " = " ++ entry.value
    "\x7b " ++ ", ".intercalate texts ++ " \x7d"

mutual

def write : Toml → String
  | string value => writeString value
  | integer value => toString value
  | float value => Decimal.Layout.dotted.write value
  | undefined negative => if negative then "-nan" else "nan"
  | boolean value => if value then "true" else "false"
  | dateTime value => value.text
  | array items => "[" ++ ", ".intercalate (writeItems items) ++ "]"
  | table entries => writeTable (writeEntries entries)

def writeItems : List Toml → List String
  | [] => []
  | item :: rest => write item :: writeItems rest

def writeEntries : List (String × Toml) → List Written
  | [] => []
  | (key, value) :: rest => ⟨rank value, key, write value⟩ :: writeEntries rest

end

end Toml
end SqlAssembler
