import NativeExtension.Pipeline
import NativeExtension.Proofs.Build.Tool

namespace NativeExtension

open Build

variable {s s' : BuildState}

/-- The errors of asking for a directory with a command. -/
def BuildError.OfQuery (command : List String) (flag : String) : BuildError → Prop
  | .tool .hostConfig asked _ => asked = command
  | .hostAnswer asked askedFor _ _ => asked = command ∧ askedFor = flag
  | _ => False

/-- The errors of compiling. -/
def BuildError.OfCompiling : BuildError → Prop
  | .tool .compile .. | .noObject .. => True
  | _ => False

/-- The directory that a call was answered with. -/
def HostLayout.answered? (a : Command.Answered) : Option Path :=
  match a.answer with
  | .ok outcome => directory? outcome.stdout
  | .error _ => none

/-- Asking for a directory makes one call. The directory is the one that the call was answered
    with. -/
theorem HostLayout.query_cases {executable flag : String} {runner : Command.Runner}
    {limit : Option Seconds} {r : Except Failure Path}
    (h : Ends (query executable runner limit flag) s r s') :
    ∃ a : Command.Answered, s'.calls = s.calls ++ [a] ∧ a.call = ⟨[executable, flag], limit⟩ ∧
      (∀ directory, r = .ok directory → a.succeeded = true ∧ answered? a = some directory) ∧
      ∀ e, r = .error (.build e) → e.OfQuery [executable, flag] flag := by
  obtain ⟨failure, htool, rfl⟩ | ⟨outcome, s₁, htool, h⟩ := ends_bind_iff.mp h
  · obtain ⟨a, hcalls, hcall, -, herror⟩ := runTool_cases htool
    refine ⟨a, hcalls, hcall, by simp, ?_⟩
    rintro e ⟨⟩
    obtain ⟨cause, rfl⟩ := herror e rfl
    rfl
  obtain ⟨a, hcalls, hcall, hok, -⟩ := runTool_cases htool
  obtain ⟨hanswer, hsucceeded⟩ := hok outcome rfl
  split at h
  next =>
    obtain ⟨rfl, rfl⟩ := ends_failWith_iff.mp h
    refine ⟨a, hcalls, hcall, by simp, ?_⟩
    rintro e ⟨⟩
    exact ⟨rfl, rfl⟩
  next directory hdirectory =>
    simp only [ends_bind_iff, ends_say_iff, ends_pure_iff] at h
    obtain ⟨_, ⟨⟨⟩, _⟩, _⟩ | ⟨_, _, ⟨_, rfl⟩, rfl, rfl⟩ := h
    refine ⟨a, hcalls, hcall, ?_, by simp⟩
    rintro _ ⟨⟩
    exact ⟨hsucceeded, by rw [answered?, hanswer]; exact hdirectory⟩

namespace Toolchain

/-- Compiling makes one call, and gives the object file only where it is there afterwards. -/
theorem compileObject_cases {tools : Tools} {buildDir source includeDir libraryDir : Path}
    {i : Identity} {r : Except Failure Path}
    (h : Ends (compileObject tools buildDir source i includeDir libraryDir) s r s') :
    ∃ a : Command.Answered, s'.calls = s.calls ++ [a] ∧
      a.call = ⟨Command.compile tools.compiler source (buildDir.child i.objectName) i includeDir
        libraryDir, tools.limit⟩ ∧
      (∀ object, r = .ok object → a.succeeded = true ∧ object = buildDir.child i.objectName ∧
        s'.files.isFile object = .ok true) ∧
      ∀ e, r = .error (.build e) → e.OfCompiling := by
  obtain ⟨failure, htool, rfl⟩ | ⟨outcome, s₁, htool, h⟩ := ends_bind_iff.mp h
  · obtain ⟨a, hcalls, hcall, -, herror⟩ := runTool_cases htool
    refine ⟨a, hcalls, hcall, by simp, ?_⟩
    rintro e ⟨⟩
    obtain ⟨cause, rfl⟩ := herror e rfl
    trivial
  obtain ⟨a, hcalls, hcall, hok, -⟩ := runTool_cases htool
  obtain ⟨rfl, fault, -, rfl⟩ | ⟨rfl, -, rfl⟩ | ⟨hfile, h⟩ := need_cases h
  · exact ⟨a, hcalls, hcall, by simp, by simp⟩
  · refine ⟨a, hcalls, hcall, by simp, ?_⟩
    rintro e ⟨⟩
    trivial
  · obtain ⟨rfl, rfl⟩ := ends_pure_iff.mp h
    refine ⟨a, hcalls, hcall, ?_, by simp⟩
    rintro _ ⟨⟩
    exact ⟨(hok outcome rfl).2, rfl, hfile⟩

/-- Linking an object file that is there makes one call. That the file is missing is then none of
    its errors. -/
theorem linkSharedLibrary_cases {tools : Tools} {buildDir object libraryDir : Path} {i : Identity}
    {extra : Option String} {r : Except Failure Path}
    (h : Ends (linkSharedLibrary tools buildDir object i libraryDir extra) s r s')
    (hobject : s.files.isFile object = .ok true) :
    ∃ a : Command.Answered, s'.calls = s.calls ++ [a] ∧
      a.call = ⟨Command.link tools.compiler object (buildDir.child i.sharedLibraryName)
        (Command.archivePath libraryDir i) extra, tools.limit⟩ ∧
      (∀ shared, r = .ok shared → a.succeeded = true) ∧
      ∀ e, r = .error (.build e) → ∃ command cause, e = .tool .link command cause := by
  obtain ⟨-, fault, hfault, -⟩ | ⟨-, hmissing, -⟩ | ⟨-, h⟩ := need_cases h
  · simp [hobject] at hfault
  · simp [hobject] at hmissing
  obtain ⟨failure, htool, rfl⟩ | ⟨outcome, s₁, htool, h⟩ := ends_bind_iff.mp h
  · obtain ⟨a, hcalls, hcall, -, herror⟩ := runTool_cases htool
    refine ⟨a, hcalls, hcall, by simp, ?_⟩
    rintro e ⟨⟩
    obtain ⟨cause, rfl⟩ := herror e rfl
    exact ⟨_, cause, rfl⟩
  · obtain ⟨a, hcalls, hcall, hok, -⟩ := runTool_cases htool
    obtain ⟨rfl, rfl⟩ := ends_pure_iff.mp h
    refine ⟨a, hcalls, hcall, ?_, by simp⟩
    rintro _ ⟨⟩
    exact (hok outcome rfl).2

end Toolchain

end NativeExtension
