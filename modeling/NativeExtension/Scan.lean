import NativeExtension.Build
import NativeExtension.Declaration
import NativeExtension.Registration
import NativeExtension.Sql.Lexer

/-!
The native declarations of an SQL text, and the source that registers them.
-/
namespace NativeExtension.Scan

/-- The native declarations of an SQL text, in their order; repeated ones are kept. -/
def declarations (sql : String) : Build (List Declaration) := do
  match Sql.tokenize sql with
  | .error around => Build.failWith (.scan around)
  | .ok tokens =>
    let found := Declaration.ofTokens tokens
    Build.say .info ("Found " ++ toString found.length ++ " native function declaration(s)")
    pure found

/-- The names of the native functions of an SQL text. -/
def functionNames (sql : String) : Build (List String) := do
  pure ((← declarations sql).map Declaration.functionName)

/-- The source that registers functions. Names that occur more than once are warned about and kept.
    -/
def wrapper (names : List String) : Build String := do
  match Registration.warning? names with
  | some text => Build.say .warning text
  | none => pure ()
  pure (Registration.source names)

end NativeExtension.Scan
