import NativeExtension.Path

/-!
Values given for the fields of a record, and what can be wrong with them. A record is refused with
all of its problems at once, in the order of its fields.
-/
namespace NativeExtension

/-- What is given for a field. -/
inductive Given where
  | absent
  | otherwise
  | text (s : String)
  deriving DecidableEq, Repr

/-- What can be wrong with the value of a field. -/
inductive FieldProblem where
  | missing
  | notText
  | notPath
  | empty
  | separator
  | frozen
  deriving DecidableEq, Repr

/-- The text of a problem. -/
def FieldProblem.message : FieldProblem → String
  | .missing => "Field required"
  | .notText => "Input should be a valid string"
  | .notPath => "Input is not a valid path for <class 'pathlib.Path'>"
  | .empty => "Value error, must not be empty"
  | .separator => "Value error, must not contain path separators"
  | .frozen => "Instance is frozen"

/-- The fields that are refused, with their problems. -/
abbrev Rejection := List (String × FieldProblem)

/-- The text of a rejection. -/
def Rejection.message (r : Rejection) : String :=
  "; ".intercalate (r.map fun (field, problem) => field ++ ": " ++ problem.message)

/-- The path given for a field. -/
def Given.path? : Given → Except FieldProblem Path
  | .absent => .error .missing
  | .otherwise => .error .notPath
  | .text s => .ok (.ofString s)

/-- The problems of fields that must be paths. -/
def pathProblems (fields : List (String × Given)) : Rejection :=
  fields.filterMap fun (field, given) =>
    match given.path? with
    | .ok _ => none
    | .error problem => some (field, problem)

end NativeExtension
