import SqlAssembler.FunctionNames

/-!
# Settings of the builders
-/

namespace SqlAssembler

structure Settings where
  functions : FunctionNames
  qualifyColumns : Bool
  deriving DecidableEq, Repr

def Settings.standard : Settings :=
  ⟨.builtin, true⟩

end SqlAssembler
