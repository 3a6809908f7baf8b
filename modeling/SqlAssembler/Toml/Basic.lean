import SqlAssembler.Toml.DateTime

/-!
# TOML values

Integers are kept exactly; how many bits one may have depends on where it is
used. What is not a number is kept apart from the floats, because it has a sign.
The entries of a table have distinct keys.
-/

namespace SqlAssembler

inductive Toml where
  | string (value : String)
  | integer (value : Int)
  | float (value : Float)
  | undefined (negative : Bool)
  | boolean (value : Bool)
  | dateTime (value : Toml.DateTime)
  | array (items : List Toml)
  | table (entries : List (String × Toml))
  deriving Inhabited

namespace Toml

abbrev Entries := List (String × Toml)

def lookup (entries : Entries) (name : String) : Option Toml :=
  (entries.find? fun entry => entry.1 = name).map Prod.snd

def isBareKeyChar (c : Char) : Bool :=
  c.isAlphanum || c = '_' || c = '-'

end Toml
end SqlAssembler
