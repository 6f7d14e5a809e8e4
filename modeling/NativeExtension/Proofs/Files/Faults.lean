import NativeExtension.Files.Install

namespace NativeExtension

variable {ε α β : Type}

/-- A result that, where it is an error, is one with a property. -/
def Raises (P : ε → Prop) (x : Except ε α) : Prop := ∀ e, x = .error e → P e

namespace Raises

variable {P Q : ε → Prop} {x : Except ε α}

theorem bind {f : α → Except ε β} (hx : Raises P x) (hf : ∀ a, Raises P (f a)) :
    Raises P (x >>= f) := by
  intro e he
  cases x with
  | ok a => exact hf a e he
  | error e' => exact hx e (by simpa [Bind.bind, Except.bind] using he)

protected theorem pure (a : α) : Raises P (pure a) := by
  intro e he
  cases he

theorem throw {e : ε} (he : P e) : Raises P (throw e : Except ε α) := by
  intro _ heq
  cases heq
  exact he

theorem mono (hx : Raises P x) (hPQ : ∀ e, P e → Q e) : Raises Q x := fun e he => hPQ e (hx e he)

end Raises

namespace Fault

/-- The faults that come of files without the operating system: a NUL in a path, directories nested
    more deeply than calls, and a file that never ends. -/
def OfProgram (fault : Fault) : Prop :=
  fault = .embeddedNul ∨ fault = .tooLarge .nesting ∨ fault = .tooLarge .reading

/-- The faults that the files of a host give rise to. -/
def OfFiles (fault : Fault) : Prop := fault.OfProgram ∨ ∃ e, fault = .system e

theorem ofFiles_system (e : SystemError) : OfFiles (.system e) := .inr ⟨e, rfl⟩

theorem ofFiles_nul : OfFiles .embeddedNul := .inl (.inl rfl)

/-- The faults of asking what a path names: it is too long, or it goes through a directory in which
    names may not be looked up. -/
def OfAsking (fault : Fault) : Prop :=
  ∃ path, fault = .system (.about .nameTooLong path) ∨ fault = .system (.about .accessDenied path)

theorem OfAsking.ofFiles {fault : Fault} (h : fault.OfAsking) : fault.OfFiles := by
  obtain ⟨path, rfl | rfl⟩ := h
  · exact ofFiles_system _
  · exact ofFiles_system _

end Fault

namespace FileTree

variable {t : FileTree}

theorem checkNul_raises (path : String) : Raises (· = Fault.embeddedNul) (checkNul path) := by
  unfold checkNul
  split
  · exact .throw rfl
  · exact .pure _

theorem checkNul_ofFiles (path : String) : Raises Fault.OfFiles (checkNul path) :=
  (checkNul_raises path).mono fun _ h => h ▸ Fault.ofFiles_nul

theorem faultAbout_ofFiles (path : String) (x : Except Errno α) :
    Raises Fault.OfFiles (faultAbout path x) := by
  cases x with
  | ok a => exact .pure a
  | error e => exact .throw (Fault.ofFiles_system _)

theorem readFile_ofFiles (path : String) : Raises Fault.OfFiles (t.readFile path) := by
  refine .bind (checkNul_ofFiles _) fun _ => ?_
  dsimp only
  split
  · exact .throw (.inl (.inr (.inr rfl)))
  · exact faultAbout_ofFiles _ _

/-- Reading a text fails like reading a file, or because its octets are no text. -/
theorem readText_raises (path : Path) :
    Raises (fun fault => fault.OfFiles ∨ ∃ e, fault = .undecodable e) (t.readText path) := by
  refine .bind ((readFile_ofFiles _).mono fun _ => .inl) fun _ => ?_
  dsimp only
  split
  · exact .pure _
  · exact .throw (.inr ⟨_, rfl⟩)

theorem writeFile_ofFiles (path : String) (content : ByteArray) :
    Raises Fault.OfFiles (t.writeFile path content) :=
  .bind (checkNul_ofFiles _) fun _ => .bind (faultAbout_ofFiles _ _) fun _ => .pure _

theorem createExclusive_ofFiles (path : String) :
    Raises Fault.OfFiles (t.createExclusive path) := by
  refine .bind (checkNul_ofFiles _) fun _ => .bind (faultAbout_ofFiles _ _) fun _ => ?_
  split
  · split
    · exact .pure _
    · exact .throw (Fault.ofFiles_system _)
  · exact .throw (Fault.ofFiles_system _)

theorem makeDirectory_ofFiles (path : String) : Raises Fault.OfFiles (t.makeDirectory path) := by
  refine .bind (checkNul_ofFiles _) fun _ => .bind (faultAbout_ofFiles _ _) fun _ => ?_
  split
  · split
    · exact .pure _
    · exact .throw (Fault.ofFiles_system _)
  · exact .throw (Fault.ofFiles_system _)

theorem copyFault_ofFiles (destination : String) (e : Errno) :
    Fault.OfFiles (t.copyFault destination e) := by
  unfold copyFault
  split
  · split
    · exact Fault.ofFiles_system _
    · exact Fault.ofFiles_system _
  · exact Fault.ofFiles_system _

theorem copyFile_ofFiles (source : Path) (destination : String) :
    Raises Fault.OfFiles (t.copyFile source destination) := by
  refine .bind (checkNul_ofFiles _) fun _ => .bind (checkNul_ofFiles _) fun _ => ?_
  dsimp only
  split
  · exact .throw (Fault.ofFiles_system _)
  · refine .bind (readFile_ofFiles _) fun _ => ?_
    split
    · exact .pure _
    · exact .throw (copyFault_ofFiles _ _)

theorem copyMode_ofFiles (source : Path) (destination : String) :
    Raises Fault.OfFiles (t.copyMode source destination) := by
  refine .bind (faultAbout_ofFiles _ _) fun _ => .bind (faultAbout_ofFiles _ _) fun _ => ?_
  dsimp only
  split
  · exact .pure _
  · exact .pure _
  · exact .pure _

/-- What can keep a path from leading anywhere. -/
def wayErrors : List Errno := [.noEntry, .notDirectory, .nameTooLong, .linkLoop, .accessDenied]

theorem walkNames_raises {follow : Location → List String → Except Errno Location}
    (hfollow : ∀ here names, Raises (· ∈ wayErrors) (follow here names)) (here : Location)
    (names : List String) : Raises (· ∈ wayErrors) (t.walkNames .target follow here names) := by
  fun_induction walkNames t .target follow here names with
  | case1 => exact .pure _
  | case2 _ _ ih => exact ih
  | case3 => exact .throw (by decide)
  | case4 _ _ _ _ ih => exact ih
  | case5 _ _ _ _ _ ih => exact ih
  | case6 => simp_all
  | case7 => exact .throw (by decide)
  | case8 => exact .throw (by decide)
  | case9 => exact .pure _
  | case10 => exact .throw (by decide)
  | case11 _ _ _ _ _ _ _ _ _ _ _ _ _ ih => exact ih
  | case12 => exact .pure _
  | case13 => exact .throw (by decide)
  | case14 => exact .pure _
  | case15 => exact .throw (by decide)
  | case16 => exact .pure _
  | case17 => exact hfollow _ _

theorem walk_raises (links : Nat) (here : Location) (names : List String) :
    Raises (· ∈ wayErrors) (t.walk .target links here names) := by
  induction links generalizing here names with
  | zero => exact walkNames_raises (fun _ _ => .throw (by decide)) here names
  | succ links ih => exact walkNames_raises ih here names

theorem find_raises (text : String) : Raises (· ∈ wayErrors) (t.find text) := by
  have hresolve : Raises (· ∈ wayErrors) (t.resolve .target text) := by
    unfold resolve
    split
    · exact .throw (by decide)
    · split
      · exact .throw (by decide)
      · exact walk_raises _ _ _
  refine .bind hresolve fun l => ?_
  split
  · exact .pure _
  · exact .throw (by decide)

/-- Asking what a path names fails only where the path or a name in it is too long, or a directory on
    the way is closed. -/
theorem status?_ofAsking (path : Path) : Raises Fault.OfAsking (t.status? path) := by
  unfold status?
  dsimp only
  split
  · exact .pure _
  · split
    · exact .pure _
    · exact .pure _
    · exact .pure _
    · exact .pure _
    · rename_i e hentry hdirectory hloop hfind
      have hway := find_raises _ e hfind
      simp only [wayErrors, List.mem_cons, List.not_mem_nil, or_false] at hway
      obtain rfl | rfl | rfl | rfl | rfl := hway
      · exact absurd rfl hentry
      · exact absurd rfl hdirectory
      · exact .throw ⟨_, .inl rfl⟩
      · exact absurd rfl hloop
      · exact .throw ⟨_, .inr rfl⟩

theorem isDirectory_ofAsking (path : Path) : Raises Fault.OfAsking (t.isDirectory path) := by
  refine .bind (status?_ofAsking _) fun _ => ?_
  split
  · exact .pure _
  · exact .pure _

theorem isFile_ofAsking (path : Path) : Raises Fault.OfAsking (t.isFile path) := by
  refine .bind (status?_ofAsking _) fun _ => ?_
  split
  · exact .pure _
  · exact .pure _

theorem list_ofFiles (path : Path) : Raises Fault.OfFiles (t.list path) := by
  refine .bind (checkNul_ofFiles _) fun _ => .bind (faultAbout_ofFiles _ _) fun _ => ?_
  dsimp only
  split
  · split
    · exact .pure _
    · exact .throw (Fault.ofFiles_system _)
  · exact .throw (Fault.ofFiles_system _)

/-- A directory is found where it was asked for. -/
theorem find_of_isDirectory {path : Path} (h : t.isDirectory path = .ok true) :
    ∃ l mode, t.find path.toString = .ok (l, .directory mode) := by
  unfold isDirectory status? at h
  dsimp only at h
  split at h
  · cases h
  · cases hfind : t.find path.toString with
    | ok found =>
      obtain ⟨l, e⟩ := found
      simp only [hfind] at h
      cases e with
      | directory mode => exact ⟨l, mode, rfl⟩
      | file | link | device => cases h
    | error e => cases e <;> simp [hfind, Bind.bind, Except.bind, pure, Except.pure] at h

theorem unlessDirectory_ofFiles {path : Path} {fault : Fault} (h : fault.OfFiles) :
    Raises Fault.OfFiles (t.unlessDirectory path fault) := by
  unfold unlessDirectory
  split
  · refine .bind ((isDirectory_ofAsking _).mono fun _ => Fault.OfAsking.ofFiles) fun found => ?_
    split
    · exact .pure _
    · exact .throw h
  · exact .throw h

theorem makeLast_ofFiles (path : Path) : Raises Fault.OfFiles (t.makeLast path).1 := by
  unfold makeLast
  cases hmake : t.makeDirectory path.toString with
  | ok u => exact .pure _
  | error fault =>
    have hfault := makeDirectory_ofFiles _ fault hmake
    dsimp only
    split
    · exact .throw hfault
    · exact unlessDirectory_ofFiles hfault

theorem makeDirectories_ofFiles (path : Path) (calls : Nat) :
    Raises Fault.OfFiles (t.makeDirectories path calls).1 := by
  induction calls generalizing path with
  | zero => exact .throw (.inl (.inr (.inl rfl)))
  | succ calls ih =>
    unfold makeDirectories
    cases hmake : t.makeDirectory path.toString with
    | ok u => exact .pure _
    | error fault =>
      have hfault := makeDirectory_ofFiles _ fault hmake
      dsimp only
      split
      · split
        · exact .throw hfault
        · split
          · exact makeLast_ofFiles _
          · exact ih _
      · exact unlessDirectory_ofFiles hfault

theorem ensureDirectory_ofFiles (path : Path) : Raises Fault.OfFiles (t.ensureDirectory path).1 :=
  makeDirectories_ofFiles _ _

theorem makeStaging_ofFiles (destination : Path) (attempts n : Nat) :
    Raises Fault.OfFiles (t.makeStaging destination attempts n) := by
  induction attempts generalizing n with
  | zero => exact .throw (Fault.ofFiles_system _)
  | succ attempts ih =>
    unfold makeStaging
    dsimp only
    split
    · exact .pure _
    next fault hcreate =>
      split
      · exact ih _
      · exact .throw (createExclusive_ofFiles _ fault hcreate)

theorem fillAndRename_ofFiles (source : Path) (staging : String) (destination : Path) :
    Raises Fault.OfFiles (t.fillAndRename source staging destination).1 := by
  unfold fillAndRename
  split
  next fault hcopy => exact .throw (copyFile_ofFiles _ _ fault hcopy)
  next u _ =>
    split
    next fault hmode => exact .throw (copyMode_ofFiles _ _ fault hmode)
    next =>
      split
      · exact .throw (Fault.ofFiles_system _)
      · exact .pure _

theorem install_ofFiles (source destination : Path) :
    Raises Fault.OfFiles (t.install source destination).1 := by
  unfold install
  split
  · exact .throw (Fault.ofFiles_system _)
  split
  next fault hstaging => exact .throw (makeStaging_ofFiles _ _ _ fault hstaging)
  next staging u _ =>
    have hfill : Raises Fault.OfFiles (u.fillAndRename source staging destination).1 :=
      fillAndRename_ofFiles _ _ _
    split
    next fault v heq => exact .throw (hfill fault (by rw [heq]))
    next => exact hfill

end FileTree

end NativeExtension
