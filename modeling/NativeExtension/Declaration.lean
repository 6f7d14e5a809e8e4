import NativeExtension.Sql.Token

/-!
Declarations of native functions in an SQL text: `CREATE [OR REPLACE] FUNCTION name … LANGUAGE c`.
One walk over the tokens finds them; what stands between the name and the language does not matter,
except that a semicolon ends the statement.
-/
namespace NativeExtension

open Sql

/-- A function that the server will call in the shared library. -/
structure Declaration where
  functionName : String
  line : Nat
  deriving DecidableEq, Repr

namespace Declaration

/-- The declaration whose name a token is. -/
def ofName (t : Token) : Declaration := ⟨t.text, t.line⟩

/-- What the walk waits for. From the name on it carries the token that names the function. -/
inductive Awaiting where
  | create
  | function
  | name
  | language (name : Token)
  | languageName (name : Token)
  deriving DecidableEq, Repr

/-- Follows a qualified name: the token after the last dot names the function. The second part is
    what follows the name. -/
def qualified : Token → List Token → Token × List Token
  | name, dot :: next :: rest =>
    if dot.isDot && next.isName then qualified next rest else (name, dot :: next :: rest)
  | name, rest => (name, rest)

theorem qualified_length_le (name : Token) (rest : List Token) :
    (qualified name rest).2.length ≤ rest.length := by
  fun_induction qualified name rest with
  | case1 name dot next rest h ih => exact Nat.le_trans ih (by simp; omega)
  | case2 => exact Nat.le_refl _
  | case3 => exact Nat.le_refl _

/-- The declarations in tokens, in their order, from what the walk waits for. -/
def walk : Awaiting → List Token → List Declaration
  | _, [] => []
  | .create, t :: rest => walk (if t.isKeyword "CREATE" then .function else .create) rest
  | .function, t :: rest =>
    if t.isKeyword "FUNCTION" then walk .name rest
    else if t.isKeyword "OR" || t.isKeyword "REPLACE" then walk .function rest
    else walk .create rest
  | .name, t :: rest =>
    if t.isName then walk (.language (qualified t rest).1) (qualified t rest).2
    else walk .create rest
  | .language name, t :: rest =>
    if t.isSeparator then walk .create rest
    else if t.isKeyword "LANGUAGE" then walk (.languageName name) rest
    else walk (.language name) rest
  | .languageName name, t :: rest =>
    if t.namesNativeLanguage then ofName name :: walk .create rest else walk .create rest
termination_by _ tokens => tokens.length
decreasing_by all_goals grind [qualified_length_le]

/-- The native declarations in tokens. Repeated ones are kept. -/
def ofTokens (tokens : List Token) : List Declaration :=
  walk .create tokens

end Declaration

end NativeExtension
