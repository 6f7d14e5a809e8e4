/-!
The C source that registers native functions with the server: a preamble, then one line for each
function in the order of the declarations.
-/
namespace NativeExtension.Registration

/-- What stands in front of the registrations. -/
def preamble : String :=
  "#include \"postgres.h\"\n#include \"fmgr.h\"\n\nPG_MODULE_MAGIC;\n\n"

/-- The registration of one function. -/
def line (name : String) : String := "PG_FUNCTION_INFO_V1(" ++ name ++ ");\n\n"

/-- The source that registers functions in the given order. -/
def source (names : List String) : String :=
  preamble ++ String.join (names.map line)

/-- The order of texts by code point. -/
def before (a b : String) : Bool := decide (a ≤ b)

/-- The names that occur more than once, each once, in the order of their code points. -/
def repeated (names : List String) : List String :=
  ((names.filter fun name => 1 < names.count name).eraseDups).mergeSort before

/-- The warning about repeated names, if there are any. The linker reports the clash itself. -/
def warning? (names : List String) : Option String :=
  match repeated names with
  | [] => none
  | repeated => some ("Native function(s) declared more than once: " ++ ", ".intercalate repeated)

end NativeExtension.Registration
