/-!
Commands as one line that a shell splits into the same arguments again.
-/
namespace NativeExtension.Command

/-- Characters that mean themselves to a shell. -/
def isSafe (c : Char) : Bool :=
  c.isAlphanum || ['_', '@', '%', '+', '=', ':', ',', '.', '/', '-'].contains c

/-- One argument: as it is, or between single quotes, where a single quote leaves them for a moment.
    -/
def quoteWord (word : String) : String :=
  if word ≠ "" && word.toList.all isSafe then word
  else
    let body := word.toList.flatMap fun c =>
      if c = '\x27' then ['\x27', '"', '\x27', '"', '\x27'] else [c]
    String.ofList ('\x27' :: body ++ ['\x27'])

/-- The arguments of a command with spaces between them. -/
def joined (args : List String) : String :=
  " ".intercalate (args.map quoteWord)

end NativeExtension.Command
