import NativeExtension.Command.Build
import NativeExtension.Command.Run
import NativeExtension.Proofs.Files.Write

namespace NativeExtension.Command

open FileTree

/-- The file that a compile or a link command is to make. Other commands make none. -/
def output? : List String → Option String
  | _ :: _ :: _ :: "-fPIC" :: "-o" :: object :: _ => some object
  | _ :: _ :: "-shared" :: "-o" :: shared :: _ => some shared
  | _ => none

theorem output?_compile (compiler : String) (source object : Path) (i : Identity)
    (includeDir libraryDir : Path) :
    output? (compile compiler source object i includeDir libraryDir) = some object.toString :=
  rfl

theorem output?_link (compiler : String) (object shared archive : Path) (extra : Option String) :
    output? (link compiler object shared archive extra) = some shared.toString :=
  rfl

/-- What stands where a file is or can be made. -/
def FileOrNothing (e : Option Entry) : Prop :=
  e = none ∨ ∃ content mode, e = some (.file content mode)

/-- A runner that changes nothing but the file that a command is to make, if there is one: it may
    write that file or take it away. -/
structure Runner.Tidy (runner : Runner) : Prop where
  current : ∀ earlier c t, (runner earlier c t).2.current = t.current
  draws : ∀ earlier c t, (runner earlier c t).2.draws = t.draws
  entries : ∀ earlier c t l, (runner earlier c t).2.get? l = t.get? l ∨
    ∃ output, output? c.args = some output ∧ t.resolve .newFile output = .ok l ∧
      FileOrNothing (t.get? l) ∧ FileOrNothing ((runner earlier c t).2.get? l)

theorem FileOrNothing.stop {e : Option Entry} (h : FileOrNothing e) : wayOf e = .stop := by
  obtain rfl | ⟨_, _, rfl⟩ := h <;> rfl

namespace Runner.Tidy

variable {runner : Runner} {earlier : List Call} {c : Call} {t : FileTree}

theorem sameWays (h : runner.Tidy) : SameWays t (runner earlier c t).2 := by
  refine ⟨fun l => ?_, h.current earlier c t, h.draws earlier c t⟩
  obtain hsame | ⟨_, -, -, hbefore, hafter⟩ := h.entries earlier c t l
  · rw [hsame]
  · rw [hbefore.stop, hafter.stop]

/-- A command that is to make a file changes the entry of that file at most. -/
theorem writes (h : runner.Tidy) {path : Path} (houtput : output? c.args = some path.toString)
    (hlink : t.EndsAtNoLink path) : WritesOnly [path] t (runner earlier c t).2 := by
  refine ⟨h.sameWays, fun l hl => ?_⟩
  obtain hsame | ⟨output, hmakes, hresolve, -⟩ := h.entries earlier c t l
  · exact hsame
  · obtain rfl : path.toString = output := by simpa [houtput] using hmakes
    exact absurd (hlink.resolve_link (resolve_target_of_newFile hresolve)) (hl path (.head _))

/-- A command that is to make no file changes nothing. -/
theorem writes_nothing (h : runner.Tidy) (houtput : output? c.args = none) :
    WritesOnly [] t (runner earlier c t).2 := by
  refine ⟨h.sameWays, fun l _ => ?_⟩
  obtain hsame | ⟨_, hmakes, -⟩ := h.entries earlier c t l
  · exact hsame
  · simp [houtput] at hmakes

/-- No command makes a device. -/
theorem endsAtNoDevice (h : runner.Tidy) {path : Path} (hdevice : t.EndsAtNoDevice path) :
    (runner earlier c t).2.EndsAtNoDevice path := by
  intro l endless hl hget
  obtain hsame | ⟨_, -, -, -, hafter⟩ := h.entries earlier c t l
  · exact hdevice l endless (h.sameWays.symm.resolve_eq_ok hl) (hsame.symm.trans hget)
  · simp [FileOrNothing, hget] at hafter

end Runner.Tidy

/-- Writing a file changes it at most, to whichever entry the links on the way to it lead. -/
theorem writeFile_entries {t u : FileTree} {path : String} {content : ByteArray}
    (h : t.writeFile path content = .ok u) (l : Location) :
    u.get? l = t.get? l ∨ t.resolve .newFile path = .ok l ∧ FileOrNothing (t.get? l) ∧
      FileOrNothing (u.get? l) := by
  obtain ⟨k, hopen, rfl⟩ := writeFile_eq_ok h
  have hstop := openForWriting_stop hopen
  by_cases hl : l = k
  · subst hl
    have written (hdevice : ∀ endless, t.get? l ≠ some (.device endless)) :
        FileOrNothing ((t.putContent l content (t.get? l)).get? l) := by
      obtain ⟨mode, hfile⟩ := putContent_get?_self content hstop hdevice
      exact .inr ⟨content, mode, hfile⟩
    have hresolve := (openForWriting_eq_ok hopen).1
    cases hget : t.get? l with
    | none => exact .inr ⟨hresolve, .inl rfl, hget ▸ written (by simp [hget])⟩
    | some e =>
      cases e with
      | file c m => exact .inr ⟨hresolve, .inr ⟨c, m, rfl⟩, hget ▸ written (by simp [hget])⟩
      | device endless => exact .inl hget
      | directory => simp [hget, wayOf] at hstop
      | link => simp [hget, wayOf] at hstop
  · exact .inl (putContent_get?_of_ne content _ hl)

/-- A runner that writes one content to every file that a command is to make. A command succeeds,
    and prints what is given for it, unless its file cannot be written. -/
def Runner.writing (content : ByteArray) (stdout : List String → String) : Runner :=
  fun _ c t =>
    match output? c.args with
    | none => (.ok ⟨c.args, 0, stdout c.args, ""⟩, t)
    | some path =>
      match t.writeFile path content with
      | .ok u => (.ok ⟨c.args, 0, stdout c.args, ""⟩, u)
      | .error _ => (.ok ⟨c.args, 1, stdout c.args, ""⟩, t)

theorem Runner.writing_tidy (content : ByteArray) (stdout : List String → String) :
    (writing content stdout).Tidy := by
  have kept (earlier : List Call) (c : Call) (t : FileTree) :
      (writing content stdout earlier c t).2.current = t.current ∧
        (writing content stdout earlier c t).2.draws = t.draws := by
    unfold writing
    split
    · exact ⟨rfl, rfl⟩
    · split
      next u hwrite =>
        obtain ⟨k, -, rfl⟩ := writeFile_eq_ok hwrite
        exact ⟨putContent_current content _, putContent_draws content _⟩
      next => exact ⟨rfl, rfl⟩
  refine ⟨fun earlier c t => (kept earlier c t).1, fun earlier c t => (kept earlier c t).2,
    fun earlier c t l => ?_⟩
  · unfold writing
    split
    · exact .inl rfl
    next path houtput =>
      split
      next u hwrite =>
        obtain hsame | hwritten := writeFile_entries hwrite l
        · exact .inl hsame
        · exact .inr ⟨path, houtput, hwritten⟩
      next => exact .inl rfl

end NativeExtension.Command
