import SqlAssembler.Json.Number
import SqlAssembler.Text.Radix

/-!
# Reading JSON

Only strict JSON is read: four blank characters, no trailing commas, no text
after the value, no raw control characters and no halves of surrogate pairs.
Arrays and objects may be nested 127 deep. A member that is written twice keeps
its first place and takes its last value.
-/

namespace SqlAssembler
namespace Json

def skipBlanks (cs : List Char) : List Char :=
  cs.dropWhile fun c => c = ' ' || c = '\t' || c = '\n' || c = '\r'

/-!
## Strings
-/

def shortEscape? (c : Char) : Option Char :=
  if c = '"' ∨ c = '\\' ∨ c = '/' then some c
  else if c = 'b' then some '\x08'
  else if c = 'f' then some '\x0c'
  else if c = 'n' then some '\n'
  else if c = 'r' then some '\r'
  else if c = 't' then some '\t'
  else none

def pairedChar (high low : Nat) : Char :=
  Char.ofNat (0x10000 + (high - 0xD800) * 0x400 + (low - 0xDC00))

def scanUnit : List Char → Option (Nat × List Char)
  | a :: b :: c :: d :: rest => (Text.numberIn? 16 [a, b, c, d]).map (·, rest)
  | _ => none

theorem length_scanUnit {cs rest : List Char} {unit : Nat}
    (h : scanUnit cs = some (unit, rest)) : rest.length < cs.length := by
  fun_cases scanUnit cs <;> grind [scanUnit, Option.map_eq_some_iff]

def scanUnicode (cs : List Char) : Option (Char × List Char) :=
  match scanUnit cs with
  | none => none
  | some (unit, rest) =>
      if unit < 0xD800 ∨ 0xE000 ≤ unit then some (Char.ofNat unit, rest)
      else if 0xDC00 ≤ unit then none
      else match rest with
        | '\\' :: 'u' :: tail =>
            match scanUnit tail with
            | none => none
            | some (low, tail) =>
                if low < 0xDC00 ∨ 0xE000 ≤ low then none
                else some (pairedChar unit low, tail)
        | _ => none

theorem length_scanUnicode {cs rest : List Char} {c : Char}
    (h : scanUnicode cs = some (c, rest)) : rest.length < cs.length := by
  unfold scanUnicode at h
  split at h
  · simp at h
  · rename_i hunit
    have hrest := length_scanUnit hunit
    split at h
    · grind
    · split at h
      · simp at h
      · split at h
        · split at h
          · simp at h
          · rename_i hlow
            have := length_scanUnit hlow
            grind
        · simp at h

def scanText (cs : List Char) : Option (List Char × List Char) :=
  match cs with
  | [] => none
  | c :: rest =>
      if c = '"' then some ([], rest)
      else if c.toNat < 0x20 then none
      else if c = '\\' then
        match rest with
        | [] => none
        | kind :: tail =>
            if kind = 'u' then
              match _hunit : scanUnicode tail with
              | none => none
              | some (unit, tail') =>
                  (scanText tail').map fun (text, r) => (unit :: text, r)
            else match shortEscape? kind with
              | none => none
              | some meant =>
                  (scanText tail).map fun (text, r) => (meant :: text, r)
      else (scanText rest).map fun (text, r) => (c :: text, r)
  termination_by cs.length
  decreasing_by
    all_goals simp_wf
    all_goals try have := length_scanUnicode _hunit
    all_goals omega

/-!
## Numbers
-/

def scanWhole : List Char → Option (List Char × List Char)
  | [] => none
  | c :: cs =>
      if c = '0' then
        if (cs.head?.map Char.isDigit).getD false then none else some ([c], cs)
      else if c.isDigit then
        some ((c :: cs).takeWhile Char.isDigit, cs.dropWhile Char.isDigit)
      else none

def scanNumber (cs : List Char) : Option (Json × List Char) :=
  let negative := cs.head? = some '-'
  match scanWhole (if negative then cs.drop 1 else cs) with
  | none => none
  | some (whole, afterWhole) =>
      let (fraction, afterFraction) := Decimal.takeFraction afterWhole
      if afterWhole.head? = some '.' ∧ fraction = [] then none
      else match Decimal.takeExponent afterFraction with
        | none => none
        | some (exponent, rest) =>
            let plain := afterWhole.length = rest.length
            (numberValue ⟨negative, whole, fraction, exponent⟩ plain).map
              (·, rest)

/-!
## Values
-/

abbrev Scan (α : Type) := List Char → Option (α × List Char)

def scanItems (item : Scan Json) :
    Nat → List Char → Option (List Json × List Char)
  | 0, _ => none
  | steps + 1, cs =>
      match item cs with
      | none => none
      | some (value, rest) =>
          match skipBlanks rest with
          | ',' :: rest =>
              (scanItems item steps (skipBlanks rest)).map fun (items, r) =>
                (value :: items, r)
          | ']' :: rest => some ([value], rest)
          | _ => none

def scanMembers (item : Scan Json) :
    Nat → List Char → Option (Members × List Char)
  | 0, _ => none
  | steps + 1, cs =>
      match cs with
      | '"' :: cs =>
          match scanText cs with
          | none => none
          | some (key, rest) =>
              match skipBlanks rest with
              | ':' :: rest =>
                  match item (skipBlanks rest) with
                  | none => none
                  | some (value, rest) =>
                      match skipBlanks rest with
                      | ',' :: rest =>
                          let others := scanMembers item steps (skipBlanks rest)
                          others.map fun (members, r) =>
                            ((String.ofList key, value) :: members, r)
                      | '\x7d' :: rest =>
                          some ([(String.ofList key, value)], rest)
                      | _ => none
              | _ => none
      | _ => none

def scanWord (word : String) (value : Json) (cs : List Char) :
    Option (Json × List Char) :=
  if word.toList.isPrefixOf cs then some (value, cs.drop word.length) else none

/-- A value at the start of the text, with at most `nesting` containers inside
one another. -/
def scanValue : Nat → Scan Json
  | nesting, cs =>
      match cs with
      | [] => none
      | '"' :: rest =>
          (scanText rest).map fun (text, r) => (.string (String.ofList text), r)
      | '[' :: rest =>
          match nesting with
          | 0 => none
          | nesting + 1 =>
              match skipBlanks rest with
              | ']' :: rest => some (.array [], rest)
              | rest =>
                  let scanned := scanItems (scanValue nesting) rest.length rest
                  scanned.map fun (items, r) => (.array items, r)
      | '\x7b' :: rest =>
          match nesting with
          | 0 => none
          | nesting + 1 =>
              match skipBlanks rest with
              | '\x7d' :: rest => some (.object [], rest)
              | rest =>
                  let scanned :=
                    scanMembers (scanValue nesting) rest.length rest
                  scanned.map fun (members, r) =>
                    (.object (Members.ofList members), r)
      | 'n' :: _ => scanWord "null" .null cs
      | 't' :: _ => scanWord "true" (.bool true) cs
      | 'f' :: _ => scanWord "false" (.bool false) cs
      | _ => scanNumber cs

def nestingLimit : Nat := 127

def read? (text : String) : Option Json :=
  match scanValue nestingLimit (skipBlanks text.toList) with
  | some (value, rest) => if (skipBlanks rest).isEmpty then some value else none
  | none => none

end Json
end SqlAssembler
