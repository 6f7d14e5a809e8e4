import NativeExtension.Number.Reader

/-!
The arguments of the command line. Options may stand before and after the path; one that takes a
value takes the next argument whatever it looks like, and the last of several values counts.
-/
namespace NativeExtension.CommandLine

/-- The options that take a value. -/
inductive ValueOption where
  | extra
  | profile
  | pgConfig
  | compiler
  | limit
  deriving DecidableEq, Repr

/-- The option that a name stands for. -/
def ValueOption.ofName? : String → Option ValueOption
  | "--extra" => some .extra
  | "--profile" => some .profile
  | "--pg-config" => some .pgConfig
  | "--cc" => some .compiler
  | "--timeout" => some .limit
  | _ => none

/-- The options that are there or not. -/
inductive Switch where
  | verbose
  | help
  deriving DecidableEq, Repr

/-- The switch that a name stands for. -/
def Switch.ofName? : String → Option Switch
  | "--verbose" => some .verbose
  | "--help" => some .help
  | _ => none

/-- The switch that a letter stands for. -/
def Switch.ofLetter? : Char → Option Switch
  | 'v' => some .verbose
  | 'h' => some .help
  | _ => none

/-- Arguments sorted into options and the others, values in the order given. -/
structure Sorted where
  values : List (ValueOption × String)
  switches : List Switch
  others : List String

/-- What is wrong with arguments. -/
inductive UsageError where
  | unknownOption (name : String)
  | missingValue (name : String)
  | unexpectedValue (name : String)
  | notANumber (text : String)
  | tooManyPaths (paths : List String)
  deriving DecidableEq, Repr

/-- The name and the value of an argument of the form `name=value`. -/
def splitAtEquals (arg : String) : String × Option String :=
  let cs := arg.toList
  match cs.dropWhile (· != '=') with
  | [] => (arg, none)
  | _ :: value => (String.ofList (cs.takeWhile (· != '=')), some (String.ofList value))

/-- The switches of a cluster of letters. -/
def clusterSwitches (arg : String) : Except UsageError (List Switch) :=
  (arg.toList.drop 1).mapM fun c =>
    match Switch.ofLetter? c with
    | some s => .ok s
    | none => .error (.unknownOption (String.ofList ['-', c]))

/-- Whether an argument can be an option. -/
def looksLikeOption (arg : String) : Bool :=
  match arg.toList with
  | '-' :: _ :: _ => true
  | _ => false

/-- Sorts arguments; two dashes end the options. -/
def sortArguments (s : Sorted) : List String → Except UsageError Sorted
  | [] => .ok s
  | arg :: rest =>
    if arg = "--" then .ok { s with others := s.others ++ rest }
    else if !looksLikeOption arg then sortArguments { s with others := s.others ++ [arg] } rest
    else
      let (name, value) := splitAtEquals arg
      match ValueOption.ofName? name, Switch.ofName? name, value with
      | some option, _, some value =>
        sortArguments { s with values := s.values ++ [(option, value)] } rest
      | some option, _, none =>
        match rest with
        | [] => .error (.missingValue name)
        | value :: rest => sortArguments { s with values := s.values ++ [(option, value)] } rest
      | none, some _, some _ => .error (.unexpectedValue name)
      | none, some switch, none => sortArguments { s with switches := s.switches ++ [switch] } rest
      | none, none, _ =>
        if "--".toList.isPrefixOf arg.toList then .error (.unknownOption name)
        else
          match clusterSwitches arg with
          | .error e => .error e
          | .ok switches => sortArguments { s with switches := s.switches ++ switches } rest

/-- What the command line asks to install, and how. -/
structure Options where
  path : String
  extra : Option String
  profile : Option String
  pgConfig : Option String
  compiler : Option String
  limit : Option Binary64
  verbose : Bool
  deriving DecidableEq, Repr

/-- What the command line asks for. -/
inductive Request where
  | help
  | install (options : Options)
  deriving DecidableEq, Repr

namespace Sorted

/-- The last value of an option. -/
def last? (s : Sorted) (option : ValueOption) : Option String :=
  (s.values.reverse.lookup option)

/-- The limit on commands, which must be a number. -/
def limit? (s : Sorted) : Except UsageError (Option Binary64) :=
  match s.last? .limit with
  | none => .ok none
  | some text =>
    match Binary64.ofArgument? text with
    | some x => .ok (some x)
    | none => .error (.notANumber text)

/-- What sorted arguments ask for. Help comes first; the current directory is the path when none is
    given. -/
def request (s : Sorted) : Except UsageError Request := do
  if s.switches.contains .help then return .help
  let limit ← s.limit?
  match s.others with
  | _ :: _ :: _ => throw (.tooManyPaths s.others)
  | others =>
    return .install {
      path := others.headD "."
      extra := s.last? .extra
      profile := s.last? .profile
      pgConfig := s.last? .pgConfig
      compiler := s.last? .compiler
      limit
      verbose := s.switches.contains .verbose }

end Sorted

/-- What arguments ask for. -/
def parse (args : List String) : Except UsageError Request := do
  (← sortArguments ⟨[], [], []⟩ args).request

end NativeExtension.CommandLine
