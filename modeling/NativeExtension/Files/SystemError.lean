import NativeExtension.Path
import NativeExtension.Text.Quoted

/-!
Errors of the operating system and their texts.
-/
namespace NativeExtension

/-- What can go wrong with a path or a program. -/
inductive Errno where
  | noEntry
  | notExecutable
  | badDescriptor
  | accessDenied
  | busy
  | alreadyExists
  | notDirectory
  | isDirectory
  | invalidArgument
  | noSpace
  | nameTooLong
  | notEmpty
  | linkLoop
  deriving DecidableEq, Repr

/-- The number of an error. -/
def Errno.number : Errno → Nat
  | .noEntry => 2
  | .notExecutable => 8
  | .badDescriptor => 9
  | .accessDenied => 13
  | .busy => 16
  | .alreadyExists => 17
  | .notDirectory => 20
  | .isDirectory => 21
  | .invalidArgument => 22
  | .noSpace => 28
  | .nameTooLong => 36
  | .notEmpty => 39
  | .linkLoop => 40

/-- The wording of an error. -/
def Errno.reason : Errno → String
  | .noEntry => "No such file or directory"
  | .notExecutable => "Exec format error"
  | .badDescriptor => "Bad file descriptor"
  | .accessDenied => "Permission denied"
  | .busy => "Device or resource busy"
  | .alreadyExists => "File exists"
  | .notDirectory => "Not a directory"
  | .isDirectory => "Is a directory"
  | .invalidArgument => "Invalid argument"
  | .noSpace => "No space left on device"
  | .nameTooLong => "File name too long"
  | .notEmpty => "Directory not empty"
  | .linkLoop => "Too many levels of symbolic links"

/-- An error that the operating system reports: one with a number and the paths it is about, one
    given in words, a file that would be copied onto itself, or one that would be copied to a
    directory that is missing. -/
inductive SystemError where
  | numbered (number : Int) (reason : String) (path other : Option String)
  | described (text : String)
  | sameFile (source destination : Path)
  | noDirectory (path : String)
  deriving DecidableEq, Repr

namespace SystemError

/-- An error about one path. -/
def about (e : Errno) (path : String) : SystemError :=
  .numbered e.number e.reason (some path) none

/-- An error about two paths. -/
def between (e : Errno) (path other : String) : SystemError :=
  .numbered e.number e.reason (some path) (some other)

/-- The error of asking for the working directory where it was removed. -/
def noCurrent : SystemError :=
  .numbered Errno.noEntry.number Errno.noEntry.reason none none

/-- The text of an error. -/
def message : SystemError → String
  | .numbered number reason path other =>
    let subject :=
      match path, other with
      | some path, some other => ": " ++ Text.quoted path ++ " -> " ++ Text.quoted other
      | some path, none => ": " ++ Text.quoted path
      | none, _ => ""
    "[Errno " ++ toString number ++ "] " ++ reason ++ subject
  | .described text => text
  | .sameFile source destination =>
    "PosixPath(" ++ Text.quoted source.toString ++ ") and PosixPath(" ++
      Text.quoted destination.toString ++ ") are the same file"
  | .noDirectory path => "Directory does not exist: " ++ path

end SystemError

end NativeExtension
