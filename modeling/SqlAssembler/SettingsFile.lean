import SqlAssembler.Execution.Registry
import SqlAssembler.Toml.Reader
import SqlAssembler.Toml.Record

/-!
# Settings files

A TOML document may set whether columns are qualified, which functions are
allowed, and the limits of a registry. Every setting has a standard value, and
keys that name no setting are ignored. Allowed functions have names in upper
case.
-/

namespace SqlAssembler

structure SettingsFile where
  qualifyColumns : Bool
  extraFunctions : List String
  replaceBuiltin : Bool
  rules : RegistryRules
  deriving DecidableEq, Repr

namespace SettingsFile

open Toml

/-- A section may hold more than its fields. -/
def form (names : List String) : RecordForm :=
  ⟨names, true, true⟩

def functions? (value : Toml) : Option (List String × Bool) := do
  let fields ← (form ["extra", "replace_defaults"]).fields? value
  let extra ← fields.withDefault? "extra" (list? string?) []
  let replace ← fields.withDefault? "replace_defaults" boolean? false
  return (extra, replace)

def rules? (value : Toml) : Option RegistryRules := do
  let fields ← (form ["slow_query_ms", "query_timeout_ms"]).fields? value
  let slow ← fields.optional? "slow_query_ms" count?
  let timeout ← fields.optional? "query_timeout_ms" count?
  return ⟨slow.map UInt64.toNat, timeout.map UInt64.toNat⟩

def ofEntries? (entries : Entries) : Option SettingsFile := do
  let fields : Fields := ⟨entries, false⟩
  let qualifyColumns ← fields.withDefault? "qualify_columns" boolean? true
  let (extra, replace) ← fields.withDefault? "functions" functions? ([], false)
  let rules ← fields.withDefault? "registry" rules? ⟨none, none⟩
  return ⟨qualifyColumns, extra, replace, rules⟩

def isFunctionName (name : String) : Bool :=
  !name.isEmpty && name.toList.all fun c => c = '_' || c.isUpper || c.isDigit

def read (text : String) : Except Error SettingsFile :=
  match (Toml.read? text).bind ofEntries? with
  | none => .error (.config .malformed)
  | some file =>
      match file.extraFunctions.find? fun name => !isFunctionName name with
      | some name => .error (.config (.functionName name))
      | none => .ok file

def settings (file : SettingsFile) : Settings :=
  let base := if file.replaceBuiltin then .empty else .builtin
  ⟨FunctionNames.insertAll base file.extraFunctions, file.qualifyColumns⟩

end SettingsFile
end SqlAssembler
