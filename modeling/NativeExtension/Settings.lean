import NativeExtension.Fault
import NativeExtension.Number.Reader
import NativeExtension.Number.Seconds
import NativeExtension.Text.Quoted

/-!
Settings from the environment. A limit on commands must be a positive number of seconds; an empty or
blank one is none.
-/
namespace NativeExtension

/-- The environment variables that are looked at, as far as they are set. -/
structure Environment where
  pgConfig : Option String
  compiler : Option String
  profile : Option String
  limit : Option String

/-- Why there can be no such environment: no variable holds a NUL. -/
def Environment.fault? (env : Environment) : Option Fault :=
  let holdsNul (value : Option String) : Bool := value.any (·.toList.contains '\x00')
  if [env.pgConfig, env.compiler, env.profile, env.limit].any holdsNul then some .embeddedNul else none

/-- The variables that are set, with their names. -/
def Environment.variables (env : Environment) : List (String × String) :=
  [("PG_CONFIG", env.pgConfig), ("CC", env.compiler), ("PGEXT_PROFILE", env.profile),
    ("PGEXT_TIMEOUT", env.limit)].filterMap fun (name, value) => value.map (name, ·)

/-- What the environment settles. -/
structure Settings where
  pgConfig : String
  compiler : String
  profile : String
  limit : Option Binary64
  deriving DecidableEq, Repr

/-- What is wrong with the limit. -/
inductive SettingsError where
  | notANumber (raw : String)
  | notPositive (raw : String)
  deriving DecidableEq, Repr

/-- The text of an error. -/
def SettingsError.message : SettingsError → String
  | .notANumber raw => "PGEXT_TIMEOUT must be a number of seconds, got " ++ Text.quoted raw
  | .notPositive raw => "PGEXT_TIMEOUT must be positive, got " ++ Text.quoted raw

namespace Settings

/-- The limit that a text sets. -/
def parseLimit (raw : Option String) : Except SettingsError (Option Binary64) :=
  match raw with
  | none => .ok none
  | some raw =>
    if Text.stripped raw = "" then .ok none
    else
      match Binary64.ofText? raw with
      | none => .error (.notANumber raw)
      | some x => if x.isNonPositive then .error (.notPositive raw) else .ok (some x)

/-- The settings of an environment. A variable that is set to nothing counts as set. -/
def ofEnvironment (env : Environment) : Except SettingsError Settings := do
  let limit ← parseLimit env.limit
  pure {
    pgConfig := env.pgConfig.getD "pg_config"
    compiler := env.compiler.getD "gcc"
    profile := env.profile.getD "release"
    limit }

end Settings

end NativeExtension
